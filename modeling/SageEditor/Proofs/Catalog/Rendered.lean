/-
Renderings of a catalog.

* `Symbol.IsRendered`, `Catalog.IsRendered` — the token sequences that render a symbol and a catalog;
* `Catalog.isRendered_written` — the text that is written of a catalog is one of them;
* `Catalog.parse_rendered` — every rendering is read back as the catalog.

Design notes: an empty group and an empty documentation may be left out.  Members of other names
may stand anywhere, and how deep their values are nested does not matter, since they are stepped
over.
-/
import SageEditor.Proofs.Json.Rendered
import SageEditor.Proofs.Json.Written
import SageEditor.Symbol

namespace SageEditor

open Json

/-- An object with the name of the symbol and its documentation, which is empty if it is left
out. -/
def Symbol.IsRendered (ts : List Token) (s : Symbol) : Prop :=
  ∃ given, IsRecord ["name", "doc"] IsText ts given ∧ given.lookup "name" = some s.name ∧
    (given.lookup "doc").getD "" = s.doc

/-- An object with the lists of the symbols, which are empty if they are left out. -/
def Catalog.IsRendered (ts : List Token) (c : Catalog) : Prop :=
  ∃ given, IsRecord ["classes", "functions", "constants"] (IsList Symbol.IsRendered) ts given ∧
    (given.lookup "classes").getD [] = c.classes ∧
    (given.lookup "functions").getD [] = c.functions ∧
    (given.lookup "constants").getD [] = c.constants

/-! ### Reading -/

theorem Symbol.takes (depth : ℕ) :
    Takes (Read.record Symbol.shape (depth + 1)) Symbol.IsRendered := by
  have hread : Takes (Symbol.shape.read depth) IsText := takes_text
  refine (takes_record hread (by decide)).mono fun {ts s} h => ?_
  obtain ⟨given, hgiven, hname, hdoc⟩ := h
  refine ⟨given, hgiven, ?_⟩
  have hslots : slots Symbol.shape.fields given = [some s.name, given.lookup "doc"] := by
    rw [← hname]
    rfl
  have hbuild : Symbol.shape.build (slots Symbol.shape.fields given) = .ok ⟨s.name, s.doc⟩ := by
    rw [hslots, ← hdoc]
    rfl
  exact hbuild

theorem Catalog.takes (depth : ℕ) :
    Takes (Read.record Catalog.shape (depth + 3)) Catalog.IsRendered := by
  have hread : Takes (Catalog.shape.read (depth + 2)) (IsList Symbol.IsRendered) :=
    takes_list (Symbol.takes depth)
  refine (takes_record hread (by decide)).mono fun {ts c} h => ?_
  obtain ⟨given, hgiven, hclasses, hfunctions, hconstants⟩ := h
  refine ⟨given, hgiven, ?_⟩
  have hslots : slots Catalog.shape.fields given =
      [given.lookup "classes", given.lookup "functions", given.lookup "constants"] := rfl
  have hbuild : Catalog.shape.build (slots Catalog.shape.fields given) =
      .ok ⟨c.classes, c.functions, c.constants⟩ := by
    rw [hslots, ← hclasses, ← hfunctions, ← hconstants]
    rfl
  exact hbuild

/-! ### Writing -/

theorem Symbol.isRendered_written (s : Symbol) : s.IsRendered (written s.toJson) := by
  have hrecord := isRecord_written ["name", "doc"] .string [("name", s.name), ("doc", s.doc)]
    (by simp) (by simp) fun _ _ => isText_written _
  exact ⟨_, hrecord, rfl, rfl⟩

theorem Catalog.isRendered_written (c : Catalog) : c.IsRendered (written c.toJson) := by
  have hgroup : ∀ symbols : List Symbol,
      IsList Symbol.IsRendered (written (.array (symbols.map Symbol.toJson))) symbols := by
    intro symbols
    exact ⟨_, rfl, items_written Symbol.toJson (fun s _ => s.isRendered_written) true⟩
  have hrecord := isRecord_written ["classes", "functions", "constants"]
    (fun symbols : List Symbol => .array (symbols.map Symbol.toJson))
    [("classes", c.classes), ("functions", c.functions), ("constants", c.constants)]
    (by simp) (by simp) fun _ _ => hgroup _
  exact ⟨_, hrecord, rfl, rfl, rfl⟩

/-! ### The catalog of a text -/

namespace Catalog

/-- **Reading a catalog.**  Every text that renders a catalog is read as that catalog, and so is
what is written of it. -/
theorem parse_rendered (c : Catalog) :
    (∀ ts text rest, c.IsRendered ts → Spells ts text.toList rest → Read.skipBlanks rest = [] →
      parse text = .ok c) ∧
    parse c.toJson.compact = .ok c ∧ parse c.toJson.pretty = .ok c := by
  have hparse : ∀ ts text rest, c.IsRendered ts → Spells ts text.toList rest →
      Read.skipBlanks rest = [] → parse text = .ok c := fun ts text rest h hspells hrest =>
    run_of_spells (Catalog.takes 124) h hspells hrest
  refine ⟨hparse, hparse _ _ [] c.isRendered_written ?_ rfl,
    hparse _ _ [] c.isRendered_written ?_ rfl⟩
  · rw [compact, String.toList_ofList]
    exact spells_value _ _
  · rw [pretty, String.toList_ofList]
    exact spells_lines 0 _ _

/-- A text with a member of another name, the documentation before the name, and escapes. -/
def reorderedText : String :=
  "\x7b\"version\": [[-1e999], \"\\ud800\"],\n \"functions\":" ++
    " [\x7b\"doc\": \"\\ud835\\udf0b\", \"n\\u0061me\": \"\\/\"\x7d]\x7d\n"

/-- Its tokens. -/
def reorderedTokens : List Token :=
  [.mark '{', .string ['v', 'e', 'r', 's', 'i', 'o', 'n'], .mark ':', .mark '[', .mark '[',
    .atom ['-', '1', 'e', '9', '9', '9'], .mark ']', .mark ',',
    .string ['\\', 'u', 'd', '8', '0', '0'], .mark ']', .mark ',',
    .string ['f', 'u', 'n', 'c', 't', 'i', 'o', 'n', 's'], .mark ':', .mark '[', .mark '{',
    .string ['d', 'o', 'c'], .mark ':',
    .string ['\\', 'u', 'd', '8', '3', '5', '\\', 'u', 'd', 'f', '0', 'b'], .mark ',',
    .string ['n', '\\', 'u', '0', '0', '6', '1', 'm', 'e'], .mark ':', .string ['\\', '/'],
    .mark '}', .mark ']', .mark '}']

/-- The value of the other member: its number is too large and its surrogate has no partner. -/
theorem isJson_reordered : IsJson .value [.mark '[', .mark '[',
    .atom ['-', '1', 'e', '9', '9', '9'], .mark ']', .mark ',',
    .string ['\\', 'u', 'd', '8', '0', '0'], .mark ']'] := by
  have hnumber : NumeralText ⟨true, ['1'], none, some ⟨false, ['9', '9', '9']⟩⟩
      ['-', '1', 'e', '9', '9', '9'] :=
    .mk ⟨by simp, by simp [AllDigits], by simp⟩ .none
      (.some (.inl rfl) .none (by simp) (by simp [AllDigits]))
  have hinner : IsJson .value [.mark '[', .atom ['-', '1', 'e', '9', '9', '9'], .mark ']'] :=
    .list (@IsJson.item true _ _ (.scalar (.number hnumber)) .noItem)
  have hcode : Read.hexValues? 'd' '8' '0' '0' = some 0xd800 := by decide
  have hitems := @IsJson.item true _ _ hinner
    (@IsJson.item false _ _ (.scalar (.string (.unicode hcode .nil))) .noItem)
  exact .list hitems

/-- The symbol, with its documentation first. -/
theorem isRendered_reordered : Symbol.IsRendered (.mark '{' :: ([.string ['d', 'o', 'c'],
    .mark ':', .string ['\\', 'u', 'd', '8', '3', '5', '\\', 'u', 'd', 'f', '0', 'b'], .mark ',',
    .string ['n', '\\', 'u', '0', '0', '6', '1', 'm', 'e'], .mark ':', .string ['\\', '/']] ++
    [.mark '}'])) ⟨"/", "𝜋"⟩ := by
  have hdoc : StringText ['\\', 'u', 'd', '8', '3', '5', '\\', 'u', 'd', 'f', '0', 'b']
      "𝜋".toList := by
    have hhigh : Read.hexValues? 'd' '8' '3' '5' = some 0xd835 := by decide
    have hlow : Read.hexValues? 'd' 'f' '0' 'b' = some 0xdf0b := by decide
    have hchar : "𝜋".toList =
        [Char.ofNat (0x10000 + (0xd835 - 0xd800) * 0x400 + (0xdf0b - 0xdc00))] := by decide
    rw [hchar]
    exact .pair hhigh (by decide) hlow (by decide) .nil
  have hname : StringText ['n', '\\', 'u', '0', '0', '6', '1', 'm', 'e'] "name".toList := by
    have hcode : Read.hexValues? '0' '0' '6' '1' = some 0x61 := by decide
    have hletter := StringText.unicode hcode (by decide) (by decide) (stringText_escaped "me")
    exact .plain (by decide) (by decide) (by decide) hletter
  have hfirst : RecordMember ["name", "doc"] IsText _ (some ("doc", "𝜋")) :=
    .field (stringText_escaped "doc") (by simp) ⟨_, rfl, hdoc⟩
  have hsecond : RecordMember ["name", "doc"] IsText _ (some ("name", "/")) :=
    .field hname (by simp) ⟨['\\', '/'], rfl, .escape rfl .nil⟩
  have hitems := @Items.cons _ _ true _ _ _ _ hfirst (.cons hsecond .nil)
  exact ⟨[("doc", "𝜋"), ("name", "/")], ⟨_, _, rfl, hitems, rfl, by simp⟩, rfl, rfl⟩

theorem parse_rendered_reordered : ∃ rest, IsRendered reorderedTokens ⟨[], [⟨"/", "𝜋"⟩], []⟩ ∧
    Spells reorderedTokens reorderedText.toList rest ∧ Read.skipBlanks rest = [] ∧
      parse reorderedText = .ok ⟨[], [⟨"/", "𝜋"⟩], []⟩ := by
  have hfirst : RecordMember ["classes", "functions", "constants"] (IsList Symbol.IsRendered) _
      none := .other (stringText_escaped "version") (by simp) isJson_reordered
  have hsecond : RecordMember ["classes", "functions", "constants"] (IsList Symbol.IsRendered) _
      (some ("functions", [⟨"/", "𝜋"⟩])) :=
    .field (stringText_escaped "functions") (by simp)
      ⟨_, rfl, @Items.cons _ _ true _ _ _ _ isRendered_reordered .nil⟩
  have hitems := @Items.cons _ _ true _ _ _ _ hfirst (.cons hsecond .nil)
  have hrecord : IsRecord ["classes", "functions", "constants"] (IsList Symbol.IsRendered)
      (.mark '{' :: (_ ++ [.mark '}'])) [("functions", [⟨"/", "𝜋"⟩])] :=
    ⟨_, _, rfl, hitems, rfl, by simp⟩
  have hrendered : IsRendered reorderedTokens ⟨[], [⟨"/", "𝜋"⟩], []⟩ :=
    ⟨_, hrecord, rfl, rfl, rfl⟩
  have htokens : tokens reorderedText.toList = some reorderedTokens := by decide +kernel
  obtain ⟨-, rest, hspells, hrest⟩ := spells_of_tokens htokens
  exact ⟨rest, hrendered, hspells, hrest, (parse_rendered _).1 _ _ _ hrendered hspells hrest⟩

end Catalog

end SageEditor

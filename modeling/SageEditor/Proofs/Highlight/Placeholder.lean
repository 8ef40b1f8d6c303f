/-
Quoted placeholders in a text.

* `positions_seam` — placeholders before, in and behind a quoted text are counted apart;
* `Patterns.Inert` — patterns that, once quoted, neither are nor make a quoted placeholder;
* `inert_ofCatalog` — the patterns for the names in a catalog are such;
* `assemble` — a text put together from parts, each but the first behind something quoted;
* `exists_complete` — a text in which no word follows a placeholder has parts between all of them.

Design notes: a quoted placeholder has no quotation mark in it, so two of them share at most one.
All that is put into a text is quoted too, so the quotation marks around it stay where they are.
-/
import Mathlib.Algebra.Ring.Nat
import SageEditor.Highlight.Template
import SageEditor.Proofs.Json.Exchange
import SageEditor.Proofs.Text.Occurrence

namespace SageEditor.Highlight

open Text (positions)

/-! ### Placeholders -/

namespace Group

theorem nodup_all : all.Nodup := by decide

theorem mem_all (g : Group) : g ∈ all := by cases g <;> decide

theorem marker_eq (g : Group) : g.marker = '"' :: (g.placeholder.toList ++ ['"']) := rfl

theorem marker_ne_nil (g : Group) : g.marker ≠ [] := by simp [marker]

theorem quote_not_mem_placeholder (g : Group) : '"' ∉ g.placeholder.toList := by
  cases g <;> decide

theorem placeholder_eq_cons (g : Group) : ∃ cs, g.placeholder.toList = '_' :: cs := by
  cases g <;> exact ⟨_, rfl⟩

theorem placeholder_eq_append (g : Group) : ∃ cs, g.placeholder.toList = cs ++ ['_'] := by
  refine ⟨g.placeholder.toList.dropLast, ?_⟩
  cases g <;> decide

theorem stringText_placeholder (g : Group) :
    Json.StringText g.placeholder.toList g.placeholder.toList := by
  have hplain : ∀ cs : List Char, cs.all (fun c => c != '"' && c != '\\' && !(c < ' ')) = true →
      Json.StringText cs cs := by
    intro cs hcs
    induction cs with
    | nil => exact .nil
    | cons c cs ih =>
      rw [List.all_cons, Bool.and_eq_true] at hcs
      obtain ⟨⟨hquote, hslash⟩, hcontrol⟩ : (c ≠ '"' ∧ c ≠ '\\') ∧ ¬ c < ' ' := by
        simpa using hcs.1
      exact .plain hquote hslash hcontrol (ih hcs.2)
  apply hplain
  cases g <;> decide

theorem positions_marker (g h : Group) : positions g.marker h.marker = if h = g then 1 else 0 := by
  cases g <;> cases h <;> decide

end Group

/-- A text between quotation marks. -/
def IsQuoted (cs : List Char) : Prop := ∃ body, cs = '"' :: (body ++ ['"'])

theorem isQuoted_marker (g : Group) : IsQuoted g.marker := ⟨_, g.marker_eq⟩

/-! ### Counting placeholders -/

/-- What has no quotation mark in it and stands before one ends with the first one of a text. -/
theorem append_quote_prefix_iff {word x y : List Char} (hword : '"' ∉ word) :
    word ++ ['"'] <+: x ++ '"' :: y ↔ word ++ ['"'] <+: x ++ ['"'] := by
  induction word generalizing x with
  | nil => cases x <;> simp [List.cons_prefix_cons]
  | cons c word ih =>
    rw [List.mem_cons, not_or] at hword
    cases x with
    | nil => simp [List.cons_prefix_cons, Ne.symm hword.1]
    | cons d x => simp [List.cons_prefix_cons, ih hword.2]

theorem positions_append_quote (g : Group) (x y : List Char) :
    positions g.marker (x ++ '"' :: y) =
      positions g.marker (x ++ ['"']) + positions g.marker ('"' :: y) := by
  induction x with
  | nil =>
    have hshort : positions g.marker ['"'] = 0 := by cases g <;> decide
    rw [List.nil_append, List.nil_append, hshort, Nat.zero_add]
  | cons c x ih =>
    have hstands : g.marker <+: c :: (x ++ '"' :: y) ↔ g.marker <+: c :: (x ++ ['"']) := by
      rw [g.marker_eq, List.cons_prefix_cons, List.cons_prefix_cons,
        append_quote_prefix_iff g.quote_not_mem_placeholder]
    rw [List.cons_append, List.cons_append]
    by_cases h : g.marker <+: c :: (x ++ ['"'])
    · rw [Text.positions_cons_pos (hstands.mpr h), Text.positions_cons_pos h, ih]
      omega
    · rw [Text.positions_cons_neg (mt hstands.mp h), Text.positions_cons_neg h, ih]

/-- Placeholders before, in and behind a quoted text. -/
theorem positions_seam (g : Group) (x body y : List Char) :
    positions g.marker (x ++ '"' :: (body ++ '"' :: y)) =
      positions g.marker (x ++ ['"']) + positions g.marker ('"' :: (body ++ ['"'])) +
        positions g.marker ('"' :: y) := by
  rw [positions_append_quote, ← List.cons_append, positions_append_quote g ('"' :: body),
    List.cons_append, Nat.add_assoc]

/-! ### Texts without placeholders -/

/-- A quotation mark ends no word that ends like a placeholder. -/
def Harmless (a b : Char) : Prop := a = '_' → b ≠ '"'

/-- A text that does not begin with a quotation mark, and in which none ends such a word. -/
def IsHarmless (cs : List Char) : Prop :=
  (∀ c ∈ cs.head?, c ≠ '"') ∧ cs.IsChain Harmless

namespace IsHarmless

variable {cs : List Char}

theorem nil : IsHarmless [] := ⟨by simp, .nil⟩

theorem isChain_cons (h : IsHarmless cs) (c : Char) : (c :: cs).IsChain Harmless :=
  List.isChain_cons.mpr ⟨fun d hd _ => h.1 d hd, h.2⟩

theorem cons {c : Char} (hc : c ≠ '"') (h : IsHarmless cs) : IsHarmless (c :: cs) :=
  ⟨by simpa using hc, h.isChain_cons c⟩

/-- A quotation mark may stand behind a backslash. -/
theorem escape (c : Char) (h : IsHarmless cs) : IsHarmless ('\\' :: c :: cs) := by
  refine ⟨by simp, List.isChain_cons_cons.mpr ⟨?_, h.isChain_cons c⟩⟩
  exact fun hslash => absurd hslash (by decide)

theorem unicode {a b c d : Char} {code : ℕ} (hcode : Json.Read.hexValues? a b c d = some code)
    (h : IsHarmless cs) : IsHarmless ('\\' :: 'u' :: a :: b :: c :: d :: cs) := by
  have hne := Json.ne_of_hexValues? hcode
  have hd := h.cons (hne d (by simp)).1
  have hc := hd.cons (hne c (by simp)).1
  have hb := hc.cons (hne b (by simp)).1
  exact (hb.cons (hne a (by simp)).1).escape 'u'

/-- In a string, quotation marks stand behind backslashes only. -/
theorem of_stringText {body : List Char} (h : Json.StringText body cs) : IsHarmless body := by
  induction h with
  | nil => exact .nil
  | plain hquote _ _ _ ih => exact ih.cons hquote
  | escape _ _ ih => exact ih.escape _
  | unicode hcode _ _ _ ih => exact ih.unicode hcode
  | pair hhigh _ hlow _ _ ih => exact (ih.unicode hlow).unicode hhigh

end IsHarmless

/-- A quoted text that does not end like a placeholder has none in it. -/
theorem positions_quoted {body cs : List Char} (h : Json.StringText body cs)
    (hends : ∀ p, body ≠ p ++ ['_']) (g : Group) :
    positions g.marker ('"' :: (body ++ ['"'])) = 0 := by
  rw [Text.positions_eq_zero_iff g.marker_ne_nil]
  intro hmarker
  have hend : ['_', '"'] <:+: g.marker := by cases g <;> decide
  have hchain : ('"' :: (body ++ ['"'])).IsChain Harmless := by
    refine List.isChain_cons.mpr ⟨fun d _ h => absurd h (by decide), ?_⟩
    refine (IsHarmless.of_stringText h).2.append (List.isChain_singleton _) ?_
    rintro c hc d - rfl
    obtain ⟨p, hp⟩ := List.getLast?_eq_some_iff.mp hc
    exact absurd hp (hends p)
  have hpair : ['_', '"'].IsChain Harmless := List.IsChain.infix hchain (hend.trans hmarker)
  exact List.isChain_pair.mp hpair rfl rfl

/-- The quoted pattern of a group. -/
def Patterns.quoted (p : Patterns) (g : Group) : List Char := (Json.quote (p.get g)).toList

theorem Patterns.quoted_eq (p : Patterns) (g : Group) :
    p.quoted g = '"' :: (Json.escaped (p.get g) ++ ['"']) := Json.toList_quote _

theorem Patterns.isQuoted_quoted (p : Patterns) (g : Group) : IsQuoted (p.quoted g) :=
  ⟨_, p.quoted_eq g⟩

/-- Patterns whose written form begins like a word and does not end like a placeholder. -/
structure Patterns.Inert (p : Patterns) : Prop where
  begins (g : Group) : ∃ c cs, Json.escaped (p.get g) = c :: cs ∧ Json.isAtomChar c = true
  ends (g : Group) (cs : List Char) : Json.escaped (p.get g) ≠ cs ++ ['_']

theorem Patterns.Inert.positions_eq_zero {p : Patterns} (hp : p.Inert) (g h : Group) :
    positions g.marker (p.quoted h) = 0 := by
  rw [p.quoted_eq]
  exact positions_quoted (Json.stringText_escaped _) (hp.ends h) g

/-- The pattern for names begins with a boundary or a group, and ends with one. -/
theorem chars_ofNames (names : List String) :
    (∃ c cs, (Pattern.ofNames names).chars = c :: cs ∧ c ∈ ['\\', '(']) ∧
      ∃ cs c, (Pattern.ofNames names).chars = cs ++ [c] ∧ c ∈ ['b', 'B', ')'] := by
  unfold Pattern.ofNames
  split
  · exact ⟨⟨'\\', _, rfl, by simp⟩, ⟨['\\', 'b', '\\'], 'B', rfl, by simp⟩⟩
  · next first others _ =>
    split
    · refine ⟨⟨'\\', _, rfl, by simp⟩, ?_⟩
      have hchars : ∀ p : Pattern, (Pattern.seq .boundary (.seq p .boundary)).chars =
          ('\\' :: 'b' :: (p.chars ++ ['\\'])) ++ ['b'] := by
        intro p
        simp [Pattern.chars]
      exact ⟨_, 'b', hchars _, by simp⟩
    · exact ⟨⟨'(', _, rfl, by simp⟩, ⟨_, ')', rfl, by simp⟩⟩

theorem Patterns.get_ofCatalog (catalog : Catalog) (g : Group) :
    (Patterns.ofCatalog catalog).get g =
      (Pattern.ofNames ((g.symbols catalog).map Symbol.name)).text := by
  cases g <;> rfl

/-- The patterns for the names in a catalog are inert. -/
theorem inert_ofCatalog (catalog : Catalog) : (Patterns.ofCatalog catalog).Inert := by
  refine ⟨fun g => ?_, fun g cs hcs => ?_⟩
  · obtain ⟨⟨c, cs, hchars, hc⟩, -⟩ := chars_ofNames ((g.symbols catalog).map Symbol.name)
    rw [Json.escaped, Patterns.get_ofCatalog, Pattern.text, String.toList_ofList, hchars,
      List.foldr_cons]
    rcases List.mem_pair.mp hc with rfl | rfl
    · exact ⟨'\\', _, rfl, by decide⟩
    · exact ⟨'(', _, rfl, by decide⟩
  · obtain ⟨-, ds, c, hchars, hc⟩ := chars_ofNames ((g.symbols catalog).map Symbol.name)
    rw [Json.escaped, Patterns.get_ofCatalog, Pattern.text, String.toList_ofList, hchars,
      List.foldr_append, Json.foldr_escape] at hcs
    -- The last character is written as it is.
    have hlast : [c].foldr Json.Write.escape [] = [c] ∧ c ≠ '_' := by
      simp only [List.mem_cons, List.not_mem_nil, or_false] at hc
      rcases hc with rfl | rfl | rfl
      all_goals exact ⟨rfl, by decide⟩
    rw [hlast.1] at hcs
    exact hlast.2 (List.cons.inj (List.append_inj' hcs rfl).2).1

/-! ### Texts put together from parts -/

/-- The first part, and each further one behind what is put in for its group. -/
def assemble (put : Group → List Char) (first : List Char) (parts : List (Group × List Char)) :
    List Char :=
  first ++ parts.flatMap fun part => put part.1 ++ part.2

/-- The number of parts behind a group. -/
def countOf (parts : List (Group × List Char)) (g : Group) : ℕ :=
  parts.countP fun part => part.1 = g

variable {put put' : Group → List Char} {first next : List Char} {parts : List (Group × List Char)}

theorem assemble_cons (put : Group → List Char) (c : Char) (first : List Char)
    (parts : List (Group × List Char)) :
    assemble put (c :: first) parts = c :: assemble put first parts := rfl

theorem assemble_part (put : Group → List Char) (first : List Char) (g : Group)
    (next : List Char) (parts : List (Group × List Char)) :
    assemble put first ((g, next) :: parts) = first ++ (put g ++ assemble put next parts) := by
  simp [assemble]

/-- Between two texts put together from the same parts, the numbers of placeholders differ as
much as those in what is put in. -/
theorem positions_assemble (hput : ∀ g, IsQuoted (put g)) (hput' : ∀ g, IsQuoted (put' g))
    (g : Group) (x first : List Char) (parts : List (Group × List Char)) :
    positions g.marker (x ++ assemble put first parts) +
        (parts.map fun part => positions g.marker (put' part.1)).sum =
      positions g.marker (x ++ assemble put' first parts) +
        (parts.map fun part => positions g.marker (put part.1)).sum := by
  induction parts generalizing x first with
  | nil => rfl
  | cons part parts ih =>
    obtain ⟨h, next⟩ := part
    -- The closing quotation mark goes to what follows.
    have hseam : ∀ put : Group → List Char, IsQuoted (put h) →
        positions g.marker (x ++ assemble put first ((h, next) :: parts)) =
          positions g.marker (x ++ first ++ ['"']) + positions g.marker (put h) +
            positions g.marker (['"'] ++ assemble put next parts) := by
      rintro put ⟨body, hbody⟩
      have := positions_seam g (x ++ first) body (assemble put next parts)
      simpa [assemble_part, hbody] using this
    have hrest := ih ['"'] next
    rw [hseam put (hput h), hseam put' (hput' h)]
    simp only [List.map_cons, List.sum_cons]
    omega

theorem sum_positions_marker (g : Group) (parts : List (Group × List Char)) :
    (parts.map fun part => positions g.marker part.1.marker).sum = countOf parts g := by
  induction parts with
  | nil => rfl
  | cons part parts ih =>
    rw [countOf, List.countP_cons, List.map_cons, List.sum_cons, ih, Group.positions_marker]
    simp [countOf, Nat.add_comm]

/-- The parts are those between all placeholders of a text. -/
def Complete (first : List Char) (parts : List (Group × List Char)) : Prop :=
  ∀ g : Group, positions g.marker (assemble Group.marker first parts) = countOf parts g

/-- The parts between all placeholders are still so if something else is put in. -/
theorem Complete.positions_assemble (h : Complete first parts) (hput : ∀ g, IsQuoted (put g))
    (g : Group) : positions g.marker (assemble put first parts) =
      (parts.map fun part => positions g.marker (put part.1)).sum := by
  have heq := Highlight.positions_assemble hput isQuoted_marker g [] first parts
  rw [sum_positions_marker, List.nil_append, List.nil_append, h g] at heq
  omega

/-- No placeholder is followed by a character that placeholders begin with. -/
def NoneShared (text : List Char) : Prop :=
  ∀ (g : Group) (x y : List Char), text ≠ x ++ (g.marker ++ '_' :: y)

theorem NoneShared.of_append {x y : List Char} (h : NoneShared (x ++ y)) : NoneShared y := by
  rintro g x' y' rfl
  exact h g (x ++ x') y' (by simp)

/-- Behind a placeholder, its closing quotation mark begins no other one. -/
theorem NoneShared.positions_marker_append {g : Group} {rest : List Char}
    (h : NoneShared (g.marker ++ rest)) (k : Group) :
    positions k.marker (g.marker ++ rest) =
      positions k.marker g.marker + positions k.marker rest := by
  have hquote : positions k.marker ('"' :: rest) = positions k.marker rest := by
    refine Text.positions_cons_neg fun hk => ?_
    obtain ⟨cs, hcs⟩ := k.placeholder_eq_cons
    rw [k.marker_eq, hcs, List.cons_prefix_cons] at hk
    obtain ⟨y, rfl⟩ := hk.2
    exact h g [] _ rfl
  have hshort : positions k.marker ['"'] = 0 := by cases k <;> decide
  have hseam := positions_seam k [] g.placeholder.toList rest
  rw [List.nil_append, List.nil_append, hshort, Nat.zero_add, hquote, ← g.marker_eq] at hseam
  rw [← hseam, g.marker_eq]
  simp

/-- A text in which placeholders share no quotation mark has parts between all of them. -/
theorem exists_complete (text : List Char) (h : NoneShared text) :
    ∃ first parts, text = assemble Group.marker first parts ∧ Complete first parts := by
  induction hlength : text.length using Nat.strong_induction_on generalizing text with
  | _ n ih =>
    subst hlength
    by_cases hmarker : ∃ g : Group, g.marker <+: text
    · -- The parts of what follows are those behind this placeholder.
      obtain ⟨g, rest, rfl⟩ := hmarker
      have hpos := List.length_pos_of_ne_nil g.marker_ne_nil
      obtain ⟨first, parts, hrest, hcomplete⟩ :=
        ih rest.length (by rw [List.length_append]; omega) rest h.of_append rfl
      refine ⟨[], (g, first) :: parts, by rw [assemble_part, hrest]; rfl, fun k => ?_⟩
      rw [assemble_part, ← hrest, List.nil_append, h.positions_marker_append, hrest, hcomplete k,
        Group.positions_marker, countOf, countOf, List.countP_cons]
      simp [Nat.add_comm]
    · -- Nothing stands here, so the first character goes to the first part.
      cases text with
      | nil => exact ⟨[], [], rfl, fun g => rfl⟩
      | cons c rest =>
        have hshared : NoneShared rest := NoneShared.of_append (x := [c]) h
        obtain ⟨first, parts, hrest, hcomplete⟩ := ih rest.length (by simp) rest hshared rfl
        refine ⟨c :: first, parts, by rw [assemble_cons, hrest], fun g => ?_⟩
        rw [assemble_cons, Text.positions_cons_neg, hcomplete g]
        exact fun hg => hmarker ⟨g, hrest ▸ hg⟩

end SageEditor.Highlight

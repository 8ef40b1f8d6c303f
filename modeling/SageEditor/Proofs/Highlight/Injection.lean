/-
The injection of patterns into a grammar template.

* `inject_ok_iff_parse_ok` — a template with all placeholders gives a grammar exactly if it is valid;
* `tokens_inject` — the grammar has the tokens of the template, with placeholders filled;
* `inject_noninterference` — the groups do not interfere with one another.

Design notes: in a valid template no placeholders overlap, since a word would follow a string.
The parts between all of them then determine the grammar and the counts.  A placeholder need not
be a string of the template: its opening quotation mark may be an escaped one in a longer string.
-/
import SageEditor.Proofs.Highlight.Substitution

namespace SageEditor.Highlight

open List (Forall₂)
open Text (positions)

variable {p : Patterns} {t first : List Char} {parts : List (Group × List Char)}

/-! ### Injection -/

theorem inject_of_substitute {template : String} {counts : List (Group × ℕ)}
    (h : substitute p Group.all template.toList = .ok (t, counts)) :
    inject template p =
      match Json.parse (String.ofList t) with
      | .error e => .error (.invalidGrammar e)
      | .ok _ => .ok ⟨String.ofList t, counts⟩ := by
  simp only [inject, h, bind, Except.bind, throw, throwThe, MonadExceptOf.throw]
  rfl

theorem inject_eq_ok_iff {template : String} {i : Injection} :
    inject template p = .ok i ↔
      substitute p Group.all template.toList = .ok (i.grammar.toList, i.replacements) ∧
        ∃ v, Json.parse i.grammar = .ok v := by
  cases hsub : substitute p Group.all template.toList with
  | error e => simp [inject, hsub, bind, Except.bind]
  | ok r =>
    obtain ⟨t, counts⟩ := r
    rw [inject_of_substitute hsub]
    constructor
    · intro h
      split at h
      · cases h
      · next v hv =>
        obtain rfl := Except.ok.inj h
        exact ⟨by simp, v, hv⟩
    · rintro ⟨heq, v, hv⟩
      obtain ⟨rfl, rfl⟩ := Prod.mk.inj (Except.ok.inj heq)
      rw [String.ofList_toList, hv]

/-- The grammar of a template is valid exactly if the template is. -/
theorem exists_parse_iff_of_substitute (hp : p.Inert) {template : String}
    {counts : List (Group × ℕ)}
    (h : substitute p Group.all template.toList = .ok (t, counts)) :
    (∃ v, Json.parse (String.ofList t) = .ok v) ↔ ∃ v, Json.parse template = .ok v := by
  have hsteps := steps_of_substitute h
  rw [Json.exists_parse_iff, Json.exists_parse_iff, String.toList_ofList]
  constructor
  · rintro ⟨us, hus⟩
    exact valid_of_steps_of hp hsteps hus
  · rintro ⟨ts, hts⟩
    obtain ⟨us, hus, -⟩ := valid_of_steps hp hsteps hts
    exact ⟨us, hus⟩

/-- The tokens of a template and of its grammar. -/
theorem valid_of_inject (hp : p.Inert) {template : String} {i : Injection}
    (h : inject template p = .ok i) :
    ∃ ts us, Json.Valid template.toList ts ∧ Json.Valid i.grammar.toList us ∧
      Forall₂ (Advances p) ts us := by
  obtain ⟨hsub, v, hv⟩ := inject_eq_ok_iff.mp h
  obtain ⟨us, hus⟩ := Json.exists_parse_iff.mp ⟨v, hv⟩
  have hsteps := steps_of_substitute hsub
  obtain ⟨ts, hts⟩ := valid_of_steps_of hp hsteps hus
  obtain ⟨us', hus', hadvances⟩ := valid_of_steps hp hsteps hts
  exact ⟨ts, us', hts, hus', hadvances⟩

/-- What a successful injection starts from: a template with parts between all its placeholders,
and some for every group. -/
theorem exists_complete_of_inject (hp : p.Inert) {template : String} {i : Injection}
    (h : inject template p = .ok i) :
    ∃ first parts, template.toList = assemble Group.marker first parts ∧
      Complete first parts ∧ ∀ g, 0 < countOf parts g := by
  obtain ⟨ts, -, hts, -⟩ := valid_of_inject hp h
  obtain ⟨first, parts, htemplate, hcomplete⟩ :=
    exists_complete template.toList (noneShared_of_valid hts)
  refine ⟨first, parts, htemplate, hcomplete, fun g => ?_⟩
  obtain ⟨hsub, -⟩ := inject_eq_ok_iff.mp h
  have hmarkers := (exists_substitute_iff hp Group.nodup_all template.toList).mp ⟨_, hsub⟩
  rw [← hcomplete g, ← htemplate, Text.positions_pos_iff g.marker_ne_nil]
  exact hmarkers g g.mem_all

/-- The groups in any order put the same text together. -/
theorem substitute_of_perm (hp : p.Inert) (hcomplete : Complete first parts)
    (hpresent : ∀ g, 0 < countOf parts g) {order : List Group} (horder : order.Perm Group.all) :
    substitute p order (assemble Group.marker first parts) =
      .ok (assemble p.quoted first parts, order.map fun g => (g, countOf parts g)) := by
  have hnodup : order.Nodup := horder.nodup_iff.mpr Group.nodup_all
  have hfill : p.fill order = p.quoted := by
    funext g
    exact if_pos (horder.mem_iff.mpr g.mem_all)
  have hnone : p.fill [] = Group.marker := funext fun g => if_neg (by simp)
  have hsub := substitute_assemble hp hcomplete (fun g _ => hpresent g) [] hnodup
  rwa [hnone, List.nil_append, hfill] at hsub

/-- No placeholder is left. -/
theorem not_marker_of_complete (hp : p.Inert) (hcomplete : Complete first parts) (g : Group) :
    ¬ g.marker <:+: assemble p.quoted first parts := by
  rw [← Text.positions_eq_zero_iff g.marker_ne_nil,
    hcomplete.positions_assemble p.isQuoted_quoted]
  simp [hp.positions_eq_zero]

/-- The grammar of a template, from the parts between all of its placeholders. -/
theorem inject_parts (hp : p.Inert) {template : String} {i : Injection}
    (h : inject template p = .ok i) :
    ∃ first parts, template.toList = assemble Group.marker first parts ∧
      Complete first parts ∧ (∀ g, 0 < countOf parts g) ∧
      i.grammar.toList = assemble p.quoted first parts ∧
      i.replacements = Group.all.map fun g => (g, countOf parts g) := by
  obtain ⟨first, parts, htemplate, hcomplete, hpresent⟩ := exists_complete_of_inject hp h
  obtain ⟨hsub, -⟩ := inject_eq_ok_iff.mp h
  rw [htemplate, substitute_of_perm hp hcomplete hpresent (.refl _)] at hsub
  obtain ⟨hgrammar, hcounts⟩ := Prod.mk.inj (Except.ok.inj hsub)
  exact ⟨first, parts, htemplate, hcomplete, hpresent, hgrammar.symm, hcounts.symm⟩

/-- **Injection never breaks a good template and never repairs a bad one.**  A template with all
placeholders gives a grammar exactly if it is valid JSON, and otherwise the grammar is refused as
invalid. -/
theorem inject_ok_iff_parse_ok {template : String} (catalog : Catalog)
    (h : ∀ g : Group, g.marker <:+: template.toList) :
    ((∃ i, inject template (.ofCatalog catalog) = .ok i) ↔
      ∃ v, Json.parse template = .ok v) ∧
    ((¬ ∃ v, Json.parse template = .ok v) →
      ∃ e, inject template (.ofCatalog catalog) = .error (.invalidGrammar e)) := by
  have hp := inert_ofCatalog catalog
  obtain ⟨⟨t, counts⟩, hsub⟩ :=
    (exists_substitute_iff hp Group.nodup_all template.toList).mpr fun g _ => h g
  rw [inject_of_substitute hsub, ← exists_parse_iff_of_substitute hp hsub]
  cases Json.parse (String.ofList t) with
  | error e => exact ⟨by simp, fun _ => ⟨e, rfl⟩⟩
  | ok v => exact ⟨by simp, fun hno => absurd ⟨v, rfl⟩ hno⟩

/-- A list of the placeholders. -/
def listTemplate : String :=
  "[\"__SAGE_CLASSES__\",\"__SAGE_FUNCTIONS__\",\"__SAGE_CONSTANTS__\"]"

theorem marker_infix_listTemplate (g : Group) : g.marker <:+: listTemplate.toList := by
  cases g <;> decide

theorem inject_listTemplate :
    inject listTemplate (.ofCatalog .empty) =
      .ok ⟨"[\"\\\\b\\\\B\",\"\\\\b\\\\B\",\"\\\\b\\\\B\"]",
        [(.classes, 1), (.functions, 1), (.constants, 1)]⟩ := by decide +kernel

theorem inject_ok_iff_parse_ok_list :
    (∀ g : Group, g.marker <:+: listTemplate.toList) ∧
      ∃ i, inject listTemplate (.ofCatalog .empty) = .ok i :=
  ⟨marker_infix_listTemplate,
    (inject_ok_iff_parse_ok .empty marker_infix_listTemplate).1.mpr
      (Json.exists_ok_of_isOk (by decide +kernel))⟩

/-- With the placeholder at its end filled, a longer string keeps the characters before it. -/
theorem stringText_fill (g : Group) (pattern : String) {before cs : List Char}
    (h : Json.StringText (before ++ '\\' :: '"' :: g.placeholder.toList)
      (cs ++ g.placeholder.toList)) :
    Json.StringText (before ++ '\\' :: '"' :: Json.escaped pattern) (cs ++ pattern.toList) := by
  have hquote : Json.StringText ((before ++ ['\\']) ++ '"' :: g.placeholder.toList)
      (cs ++ g.placeholder.toList) := by
    simpa using h
  obtain ⟨ds, es, hds, hes, heq⟩ := hquote.of_append
  obtain rfl := hes.unique g.stringText_placeholder
  obtain rfl := List.append_cancel_right heq
  simpa using hds.append (Json.stringText_escaped pattern)

/-- **What injection changes.**  The tokens of the grammar are those of the template, with each
placeholder at the end of a string filled by the pattern of its group.  A placeholder becomes a
string with the pattern as its value, and a longer string keeps the characters before it. -/
theorem tokens_inject {template : String} {catalog : Catalog} {i : Injection}
    (h : inject template (.ofCatalog catalog) = .ok i) :
    (∃ ts us, Json.tokens template.toList = some ts ∧ Json.tokens i.grammar.toList = some us ∧
      Forall₂ (Filled (.ofCatalog catalog)) ts us) ∧
    (∀ g : Group, (Json.Token.string (Json.escaped ((Patterns.ofCatalog catalog).get g))).Denotes
      (.string (Pattern.ofNames ((g.symbols catalog).map Symbol.name)).text)) ∧
    ∀ (g : Group) (before cs : List Char),
      Json.StringText (before ++ '\\' :: '"' :: g.placeholder.toList)
        (cs ++ g.placeholder.toList) →
      Json.StringText (before ++ '\\' :: '"' :: Json.escaped ((Patterns.ofCatalog catalog).get g))
        (cs ++ (Pattern.ofNames ((g.symbols catalog).map Symbol.name)).text.toList) := by
  have hp := inert_ofCatalog catalog
  refine ⟨?_, fun g => ?_, fun g before cs hcs => ?_⟩
  · obtain ⟨first, parts, -, hcomplete, -, hgrammar, -⟩ := inject_parts hp h
    obtain ⟨ts, us, hts, hus, hadvances⟩ := valid_of_inject hp h
    -- A token of the grammar has no placeholder at its end, since the grammar has none.
    have hnone : ∀ u ∈ us, ∀ g : Group, ¬ g.marker <:+ u.text := by
      intro u hu g hg
      have hinfix := Json.infix_of_mem_tokens hus.1 u hu
      rw [hgrammar] at hinfix
      exact not_marker_of_complete hp hcomplete g (hg.isInfix.trans hinfix)
    exact ⟨ts, us, hts.1, hus.1, filled_of_advances hadvances hnone⟩
  · rw [← Patterns.get_ofCatalog]
    have hdenotes := Json.Token.Denotes.string
      (Json.stringText_escaped ((Patterns.ofCatalog catalog).get g))
    rwa [String.ofList_toList] at hdenotes
  · rw [← Patterns.get_ofCatalog]
    exact stringText_fill g _ hcs

theorem tokens_inject_list : ∃ i ts us, inject listTemplate (.ofCatalog .empty) = .ok i ∧
    Json.tokens listTemplate.toList = some ts ∧ Json.tokens i.grammar.toList = some us ∧
      Forall₂ (Filled (.ofCatalog .empty)) ts us := by
  obtain ⟨⟨ts, us, hts, hus, hfilled⟩, -, -⟩ := tokens_inject inject_listTemplate
  exact ⟨_, ts, us, inject_listTemplate, hts, hus, hfilled⟩

/-- A list whose first string is no placeholder, but an escaped quotation mark before one. -/
def escapedTemplate : String :=
  "[\"\\\"__SAGE_CLASSES__\",\"__SAGE_FUNCTIONS__\",\"__SAGE_CONSTANTS__\"]"

/-- It is not so that only the strings that are placeholders change. -/
theorem tokens_inject_escaped : (∃ v, Json.parse escapedTemplate = .ok v) ∧
    ∃ i, inject escapedTemplate (.ofCatalog .empty) = .ok i ∧
      ∀ ts us, Json.tokens escapedTemplate.toList = some ts →
        Json.tokens i.grammar.toList = some us →
        ¬ Forall₂ (fun t u : Json.Token =>
          (∃ g : Group, t = .string g.placeholder.toList ∧
            u.Denotes (.string ((Patterns.ofCatalog .empty).get g))) ∨
          (∀ g : Group, t ≠ .string g.placeholder.toList) ∧ u = t) ts us := by
  have hinject : inject escapedTemplate (.ofCatalog .empty) =
      .ok ⟨"[\"\\\"\\\\b\\\\B\",\"\\\\b\\\\B\",\"\\\\b\\\\B\"]",
        [(.classes, 1), (.functions, 1), (.constants, 1)]⟩ := by decide +kernel
  refine ⟨Json.exists_ok_of_isOk (by decide +kernel), _, hinject, fun ts us hts hus h => ?_⟩
  have hts' : Json.tokens escapedTemplate.toList = some
      [.mark '[', .string ('\\' :: '"' :: Group.classes.placeholder.toList), .mark ',',
        .string Group.functions.placeholder.toList, .mark ',',
        .string Group.constants.placeholder.toList, .mark ']'] := by decide +kernel
  have hus' : Json.tokens "[\"\\\"\\\\b\\\\B\",\"\\\\b\\\\B\",\"\\\\b\\\\B\"]".toList = some
      [.mark '[', .string ('\\' :: '"' :: Json.escaped "\\b\\B"), .mark ',',
        .string (Json.escaped "\\b\\B"), .mark ',', .string (Json.escaped "\\b\\B"),
        .mark ']'] := by decide +kernel
  obtain rfl := Option.some.inj (hts'.symm.trans hts)
  obtain rfl := Option.some.inj (hus'.symm.trans hus)
  obtain _ | ⟨-, h⟩ := h
  obtain _ | ⟨hstring, -⟩ := h
  rcases hstring with ⟨g, hg, -⟩ | ⟨-, heq⟩
  · exact absurd hg (by cases g <;> decide)
  · exact absurd heq (by decide)

/-- **The substitutions do not interfere.**  The counts are those of the placeholders in the
template, none is left in the grammar, the text between them is the same, and so is the outcome
with the groups in any order.  Injecting into the grammar finds no placeholder. -/
theorem inject_noninterference {template : String} {catalog : Catalog} {i : Injection}
    (h : inject template (.ofCatalog catalog) = .ok i) :
    i.replacements = Group.all.map (fun g => (g, positions g.marker template.toList)) ∧
    (∀ g : Group, ¬ g.marker <:+: i.grammar.toList) ∧
    (∃ first parts, template.toList = assemble Group.marker first parts ∧
      i.grammar.toList = assemble (Patterns.ofCatalog catalog).quoted first parts ∧
      ∀ g, countOf parts g = positions g.marker template.toList) ∧
    (∀ order : List Group, order.Perm Group.all →
      substitute (.ofCatalog catalog) order template.toList =
        .ok (i.grammar.toList, order.map fun g => (g, positions g.marker template.toList))) ∧
    ∀ patterns, inject i.grammar patterns = .error (.missingPlaceholder .classes) := by
  have hp := inert_ofCatalog catalog
  obtain ⟨first, parts, htemplate, hcomplete, hpresent, hgrammar, hcounts⟩ := inject_parts hp h
  have hcount : ∀ g, countOf parts g = positions g.marker template.toList := by
    intro g
    rw [htemplate, hcomplete g]
  have hnone : ∀ g : Group, ¬ g.marker <:+: i.grammar.toList := by
    intro g
    rw [hgrammar]
    exact not_marker_of_complete hp hcomplete g
  refine ⟨by simpa only [hcount] using hcounts, hnone,
    ⟨first, parts, htemplate, hgrammar, hcount⟩, fun order horder => ?_, fun patterns => ?_⟩
  · have hsub := substitute_of_perm hp hcomplete hpresent horder
    rw [← htemplate, ← hgrammar] at hsub
    simpa only [hcount] using hsub
  · rw [inject, Group.all, substitute_missing patterns _ (hnone .classes)]
    rfl

theorem inject_noninterference_list : ∃ i, inject listTemplate (.ofCatalog .empty) = .ok i ∧
    i.replacements = Group.all.map (fun g => (g, positions g.marker listTemplate.toList)) ∧
    ∀ patterns, inject i.grammar patterns = .error (.missingPlaceholder .classes) := by
  obtain ⟨hcounts, -, -, -, hagain⟩ := inject_noninterference inject_listTemplate
  exact ⟨_, inject_listTemplate, hcounts, hagain⟩

end SageEditor.Highlight

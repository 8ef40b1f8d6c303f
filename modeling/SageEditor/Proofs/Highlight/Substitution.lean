/-
The substitution of placeholders.

* `exists_substitute_iff` — no group hides or makes a placeholder of another one;
* `Step` — one quoted placeholder is replaced by the quoted pattern of its group;
* `valid_of_steps`, `valid_of_steps_of` — steps change the ends of string tokens only, keep a valid
  text valid, and repair none;
* `noneShared_of_valid` — in a valid text, placeholders share no quotation mark;
* `substitute_assemble` — groups in any order replace exactly their own placeholders.

Design notes: a substitution is a run of steps, so what one step preserves holds of its outcome.
In a text with parts between all placeholders, what is put in for a group is a function of whether
the group is done, so the order in which groups are done cannot matter.
-/
import SageEditor.Proofs.Highlight.Placeholder

namespace SageEditor.Highlight

open List (Forall₂)
open Relation (ReflTransGen)
open Text (positions)

variable {p : Patterns} {text s t : List Char} {g : Group} {gs : List Group}

/-! ### Substitution -/

theorem substitute_missing (p : Patterns) (gs : List Group) (h : ¬ g.marker <:+: text) :
    substitute p (g :: gs) text = .error (.missingPlaceholder g) := by
  have hzero : Text.occurrences g.marker text = 0 := by
    rw [← Text.occurrences_pos_iff g.marker_ne_nil] at h
    omega
  rw [substitute]
  simp [hzero, throw, throwThe, MonadExceptOf.throw, bind, Except.bind]

theorem substitute_cons (p : Patterns) (gs : List Group) (h : g.marker <:+: text) :
    substitute p (g :: gs) text =
      (substitute p gs (Text.replace g.marker (p.quoted g) text)).map fun r =>
        (r.1, (g, Text.occurrences g.marker text) :: r.2) := by
  have hpos : Text.occurrences g.marker text ≠ 0 := by
    rw [← Text.occurrences_pos_iff g.marker_ne_nil] at h
    omega
  rw [substitute]
  simp only [bind, Except.bind, if_neg hpos, pure, Except.pure]
  rw [show (Json.quote (p.get g)).toList = p.quoted g from rfl]
  cases substitute p gs (Text.replace g.marker (p.quoted g) text) <;> rfl

theorem join_eq_assemble (put : Group → List Char) (g : Group) (first : List Char)
    (others : List (List Char)) :
    Text.join (put g) (first, others) = assemble put first (others.map (g, ·)) := by
  simp [Text.join, assemble, List.flatMap_map]

/-- The placeholders of the other groups are as many as before. -/
theorem positions_replace (hp : p.Inert) {h : Group} (hne : g ≠ h) (text : List Char) :
    positions h.marker (Text.replace g.marker (p.quoted g) text) = positions h.marker text := by
  obtain ⟨⟨first, others⟩, hpieces⟩ : ∃ q, Text.pieces g.marker text = q := ⟨_, rfl⟩
  have htext : text = assemble Group.marker first (others.map (g, ·)) := by
    rw [← join_eq_assemble, ← hpieces, Text.join_pieces g.marker_ne_nil]
  have hreplace : Text.replace g.marker (p.quoted g) text =
      assemble p.quoted first (others.map (g, ·)) := by
    rw [← join_eq_assemble, ← hpieces, Text.replace_eq_join]
  have hcount := positions_assemble p.isQuoted_quoted isQuoted_marker h [] first
    (others.map (g, ·))
  rw [List.nil_append, List.nil_append, ← htext, ← hreplace] at hcount
  simpa [Function.comp_def, hp.positions_eq_zero, Group.positions_marker, hne] using hcount

/-- **No group hides or makes a placeholder of another one.**  The substitution succeeds exactly
if each of the groups has a placeholder in the text that it begins with. -/
theorem exists_substitute_iff (hp : p.Inert) (hgs : gs.Nodup) (text : List Char) :
    (∃ r, substitute p gs text = .ok r) ↔ ∀ g ∈ gs, g.marker <:+: text := by
  induction gs generalizing text with
  | nil => simp [substitute]
  | cons g gs ih =>
    rw [List.forall_mem_cons]
    obtain ⟨hg, hgs⟩ := List.nodup_cons.mp hgs
    by_cases hmarker : g.marker <:+: text
    · -- The other groups have as many placeholders after this one has been replaced.
      have hothers : ∀ h ∈ gs, h.marker <:+: Text.replace g.marker (p.quoted g) text ↔
          h.marker <:+: text := by
        intro h hh
        have hne : g ≠ h := by
          rintro rfl
          exact hg hh
        rw [← Text.positions_pos_iff h.marker_ne_nil, positions_replace hp hne,
          Text.positions_pos_iff h.marker_ne_nil]
      rw [substitute_cons p gs hmarker, and_iff_right hmarker, ← forall₂_congr hothers,
        ← ih hgs (Text.replace g.marker (p.quoted g) text)]
      cases substitute p gs (Text.replace g.marker (p.quoted g) text) <;> simp [Except.map]
    · simp [substitute_missing p gs hmarker, hmarker]

/-! ### Steps -/

/-- One quoted placeholder is replaced by the quoted pattern of its group. -/
def Step (p : Patterns) (s t : List Char) : Prop :=
  ∃ g : Group, Text.Rewrite g.marker (p.quoted g) s t

/-- A substitution takes one step after the other. -/
theorem steps_of_substitute {counts : List (Group × ℕ)}
    (h : substitute p gs s = .ok (t, counts)) : ReflTransGen (Step p) s t := by
  induction gs generalizing s counts with
  | nil =>
    obtain ⟨rfl, -⟩ := Prod.mk.inj (Except.ok.inj h)
    exact .refl
  | cons g gs ih =>
    by_cases hmarker : g.marker <:+: s
    · rw [substitute_cons p gs hmarker] at h
      obtain ⟨⟨t', counts'⟩, hrest, heq⟩ := Json.map_eq_ok.mp h
      obtain ⟨rfl, -⟩ := Prod.mk.inj heq
      -- Each place where the group is replaced is one step.
      have hle : Text.Rewrite g.marker (p.quoted g) ≤ Step p := fun _ _ hstep => ⟨g, hstep⟩
      have hreplace := Text.reflTransGen_replace g.marker_ne_nil (p.quoted g) s
      exact (ReflTransGen.mono hle _ _ hreplace).trans (ih hrest)
    · rw [substitute_missing p gs hmarker] at h
      cases h

/-- A string token whose placeholder at the end is filled, or a token that has none. -/
inductive Filled (p : Patterns) : Json.Token → Json.Token → Prop
  /-- The string is a placeholder. -/
  | placeholder (g : Group) :
    Filled p (.string g.placeholder.toList) (.string (Json.escaped (p.get g)))
  /-- A placeholder ends the string, and its opening quotation mark is an escaped one. -/
  | ending (g : Group) (before : List Char) :
    Filled p (.string (before ++ '\\' :: '"' :: g.placeholder.toList))
      (.string (before ++ '\\' :: '"' :: Json.escaped (p.get g)))
  | other {t : Json.Token} (h : ∀ g : Group, ¬ g.marker <:+ t.text) : Filled p t t

/-- A token that some steps have left as it is or filled. -/
def Advances (p : Patterns) (t u : Json.Token) : Prop := t = u ∨ Filled p t u

theorem Advances.refl (p : Patterns) (ts : List Json.Token) : Forall₂ (Advances p) ts ts :=
  List.forall₂_same.mpr fun _ _ => .inl rfl

theorem append_marker (g : Group) (x y : List Char) :
    x ++ (g.marker ++ y) = x ++ '"' :: (g.placeholder.toList ++ '"' :: y) := by
  simp [Group.marker]

theorem append_quoted (p : Patterns) (g : Group) (x y : List Char) :
    x ++ (p.quoted g ++ y) = x ++ '"' :: (Json.escaped (p.get g) ++ '"' :: y) := by
  simp [p.quoted_eq]

/-- A step keeps a text valid and changes the end of one string token. -/
theorem Step.valid (h : Step p s t) {ts : List Json.Token} (hs : Json.Valid s ts) :
    ∃ us, Json.Valid t us ∧ Forall₂ (Advances p) ts us := by
  obtain ⟨g, x, y, rfl, rfl⟩ := h
  rw [append_marker] at hs
  rw [append_quoted]
  obtain ⟨cs, hcs⟩ := g.placeholder_eq_cons
  obtain ⟨us, before, vs, hbefore, rfl, -, hvalid⟩ :=
    Json.Valid.exchange g.stringText_placeholder (Json.stringText_escaped (p.get g))
      ⟨'_', cs, hcs, by decide⟩ hs
  refine ⟨_, hvalid, ?_⟩
  refine List.rel_append (Advances.refl p us) (.cons (.inr ?_) (Advances.refl p vs))
  rcases hbefore with rfl | ⟨before, rfl⟩
  · exact .placeholder g
  · simpa using Filled.ending (p := p) g before

/-- No step repairs a text. -/
theorem Step.valid_of (hp : p.Inert) (h : Step p s t) {us : List Json.Token}
    (ht : Json.Valid t us) : ∃ ts, Json.Valid s ts := by
  obtain ⟨g, x, y, rfl, rfl⟩ := h
  rw [append_quoted] at ht
  rw [append_marker]
  obtain ⟨us, before, vs, -, -, -, hvalid⟩ :=
    Json.Valid.exchange (Json.stringText_escaped (p.get g)) g.stringText_placeholder
      (hp.begins g) ht
  exact ⟨_, hvalid⟩

theorem Filled.eq_or_ends {t u : Json.Token} (h : Filled p t u) :
    t = u ∨ ∃ g before, u = .string (before ++ Json.escaped (p.get g)) := by
  cases h with
  | placeholder g => exact .inr ⟨g, [], rfl⟩
  | ending g before => exact .inr ⟨g, before ++ ['\\', '"'], by simp⟩
  | other => exact .inl rfl

theorem Filled.eq_or_marked {t u : Json.Token} (h : Filled p t u) :
    t = u ∨ ∃ (g : Group) (before : List Char), t = .string (before ++ g.placeholder.toList) := by
  cases h with
  | placeholder g => exact .inr ⟨g, [], rfl⟩
  | ending g before => exact .inr ⟨g, before ++ ['\\', '"'], by simp⟩
  | other => exact .inl rfl

theorem Patterns.Inert.append_ne (hp : p.Inert) (g h : Group) (before before' : List Char) :
    before ++ Json.escaped (p.get g) ≠ before' ++ h.placeholder.toList := by
  obtain ⟨ds, hds⟩ := h.placeholder_eq_append
  rcases List.eq_nil_or_concat (Json.escaped (p.get g)) with hnil | ⟨cs, c, hcs⟩
  · obtain ⟨c, cs, hcons, -⟩ := hp.begins g
    rw [hnil] at hcons
    cases hcons
  · -- The last characters are different.
    rw [hcs, hds, List.concat_eq_append, ← List.append_assoc, ← List.append_assoc]
    intro heq
    obtain rfl := (List.cons.inj (List.append_inj' heq rfl).2).1
    exact hp.ends g cs (by rw [hcs, List.concat_eq_append])

/-- What has been filled has no placeholder at its end any more. -/
theorem Advances.trans (hp : p.Inert) {a b c : Json.Token} (hab : Advances p a b)
    (hbc : Advances p b c) : Advances p a c := by
  rcases hab with rfl | hab
  · exact hbc
  rcases hbc with rfl | hbc
  · exact .inr hab
  rcases hab.eq_or_ends with rfl | ⟨g, before, rfl⟩
  · exact .inr hbc
  rcases hbc.eq_or_marked with rfl | ⟨h, before', heq⟩
  · exact .inr hab
  · exact absurd (Json.Token.string.inj heq) (hp.append_ne g h before before')

theorem forall₂_trans {α : Type} {R : α → α → Prop} (htrans : ∀ a b c, R a b → R b c → R a c)
    {as bs cs : List α} (h : Forall₂ R as bs) (h' : Forall₂ R bs cs) : Forall₂ R as cs := by
  induction h generalizing cs with
  | nil => exact h'
  | cons hab _ ih =>
    obtain _ | ⟨hbc, h'⟩ := h'
    exact .cons (htrans _ _ _ hab hbc) (ih h')

/-- Once no placeholder is left, the tokens that have not been filled had none. -/
theorem filled_of_advances {ts us : List Json.Token} (h : Forall₂ (Advances p) ts us)
    (hnone : ∀ u ∈ us, ∀ g : Group, ¬ g.marker <:+ u.text) : Forall₂ (Filled p) ts us := by
  induction h with
  | nil => exact .nil
  | cons hab _ ih =>
    obtain ⟨hu, hnone⟩ := List.forall_mem_cons.mp hnone
    refine .cons ?_ (ih hnone)
    rcases hab with rfl | hfilled
    · exact .other hu
    · exact hfilled

/-- Steps keep a text valid, and change its string tokens only. -/
theorem valid_of_steps (hp : p.Inert) (h : ReflTransGen (Step p) s t) {ts : List Json.Token}
    (hs : Json.Valid s ts) :
    ∃ us, Json.Valid t us ∧ Forall₂ (Advances p) ts us := by
  induction h with
  | refl => exact ⟨ts, hs, Advances.refl p ts⟩
  | tail _ hstep ih =>
    obtain ⟨us, hus, hfilled⟩ := ih
    obtain ⟨vs, hvs, hfilled'⟩ := hstep.valid hus
    have htrans : ∀ a b c, Advances p a b → Advances p b c → Advances p a c :=
      fun _ _ _ => Advances.trans hp
    exact ⟨vs, hvs, forall₂_trans htrans hfilled hfilled'⟩

/-- No steps repair a text. -/
theorem valid_of_steps_of (hp : p.Inert) (h : ReflTransGen (Step p) s t) {us : List Json.Token}
    (ht : Json.Valid t us) : ∃ ts, Json.Valid s ts := by
  induction h using ReflTransGen.head_induction_on with
  | refl => exact ⟨us, ht⟩
  | head hstep _ ih =>
    obtain ⟨vs, hvs⟩ := ih
    exact hstep.valid_of hp hvs

/-- In a valid text, placeholders share no quotation mark. -/
theorem noneShared_of_valid {ts : List Json.Token} (h : Json.Valid text ts) :
    NoneShared text := by
  rintro g x y rfl
  rw [append_marker] at h
  obtain ⟨cs, hcs⟩ := g.placeholder_eq_cons
  obtain ⟨us, before, vs, -, rfl, hvs, -⟩ :=
    h.exchange g.stringText_placeholder g.stringText_placeholder ⟨'_', cs, hcs, by decide⟩
  -- A word would stand next to the string that the placeholder ends.
  rw [Json.tokens_atom (by decide)] at hvs
  obtain ⟨ws, -, rfl⟩ := Option.map_eq_some_iff.mp hvs
  have happart := h.apart.right_of_append
  exact (List.isChain_cons_cons.mp happart).1.elim id id

/-! ### The order of the groups -/

/-- What is put in for the groups when some of them are done. -/
def Patterns.fill (p : Patterns) (done : List Group) (g : Group) : List Char :=
  if g ∈ done then p.quoted g else g.marker

/-- The parts behind one group, if something else may be put in for that group. -/
theorem exists_join (put : Group → List Char) (g : Group) (first : List Char)
    (parts : List (Group × List Char)) :
    ∃ others first', others.length = countOf parts g ∧
      ∀ put', (∀ h, h ≠ g → put' h = put h) →
        assemble put' first parts = Text.join (put' g) (first', others) := by
  induction parts generalizing first with
  | nil => exact ⟨[], first, rfl, fun put' _ => by simp [assemble, Text.join]⟩
  | cons part parts ih =>
    obtain ⟨h, next⟩ := part
    obtain ⟨others, first', hlength, hjoin⟩ := ih next
    -- A part of another group is joined to the one before it, with what is put in between.
    by_cases hg : h = g
    · subst hg
      refine ⟨first' :: others, first, ?_, fun put' hput' => ?_⟩
      · rw [countOf, List.countP_cons_of_pos (by simp), ← countOf, List.length_cons, hlength]
      · rw [assemble_part, hjoin put' hput']
        simp [Text.join]
    · refine ⟨others, first ++ (put h ++ first'), ?_, fun put' hput' => ?_⟩
      · rw [countOf, List.countP_cons_of_neg (by simpa using hg), ← countOf, hlength]
      · rw [assemble_part, hjoin put' hput', hput' h hg]
        simp [Text.join]

variable {first : List Char} {parts : List (Group × List Char)} {done : List Group}

theorem Patterns.isQuoted_fill (p : Patterns) (done : List Group) (g : Group) :
    IsQuoted (p.fill done g) := by
  rw [Patterns.fill]
  split
  · exact p.isQuoted_quoted g
  · exact isQuoted_marker g

/-- The placeholders of a group are all there until it is done. -/
theorem positions_fill (hp : p.Inert) (hcomplete : Complete first parts) (hg : g ∉ done) :
    positions g.marker (assemble (p.fill done) first parts) = countOf parts g := by
  rw [hcomplete.positions_assemble (p.isQuoted_fill done), ← sum_positions_marker]
  congr 1
  refine List.map_congr_left fun part _ => ?_
  by_cases hdone : part.1 ∈ done
  · have hne : part.1 ≠ g := by
      rintro rfl
      exact hg hdone
    rw [show p.fill done part.1 = p.quoted part.1 from if_pos hdone, hp.positions_eq_zero,
      Group.positions_marker, if_neg hne]
  · rw [show p.fill done part.1 = part.1.marker from if_neg hdone]

/-- One group replaces its own placeholders, whichever groups are done. -/
theorem replace_assemble (hp : p.Inert) (hcomplete : Complete first parts) (hg : g ∉ done) :
    Text.occurrences g.marker (assemble (p.fill done) first parts) = countOf parts g ∧
      Text.replace g.marker (p.quoted g) (assemble (p.fill done) first parts) =
        assemble (p.fill (done ++ [g])) first parts := by
  obtain ⟨others, first', hlength, hjoin⟩ := exists_join (p.fill done) g first parts
  have hbefore := hjoin (p.fill done) fun _ _ => rfl
  have hafter := hjoin (p.fill (done ++ [g])) fun h hh => by simp [Patterns.fill, hh]
  rw [show p.fill done g = g.marker from if_neg hg] at hbefore
  rw [show p.fill (done ++ [g]) g = p.quoted g from if_pos (by simp)] at hafter
  -- The group stands nowhere else, so the search finds these parts.
  have hpositions := positions_fill hp hcomplete hg
  rw [hbefore, ← hlength] at hpositions
  have hpieces := Text.pieces_join g.marker_ne_nil first' others hpositions
  rw [hafter, hbefore, Text.occurrences, Text.replace_eq_join, hpieces]
  exact ⟨hlength, rfl⟩

/-- Groups that are not done yet replace their placeholders in any order. -/
theorem substitute_assemble (hp : p.Inert) (hcomplete : Complete first parts)
    (hpresent : ∀ g ∈ gs, 0 < countOf parts g) (done : List Group) (hnodup : (done ++ gs).Nodup) :
    substitute p gs (assemble (p.fill done) first parts) =
      .ok (assemble (p.fill (done ++ gs)) first parts, gs.map fun g => (g, countOf parts g)) := by
  induction gs generalizing done with
  | nil => rw [List.append_nil]; rfl
  | cons g gs ih =>
    obtain ⟨hg, hpresent⟩ := List.forall_mem_cons.mp hpresent
    have hdone : g ∉ done := fun h => (List.nodup_append.mp hnodup).2.2 g h g (by simp) rfl
    obtain ⟨hcount, hreplace⟩ := replace_assemble hp hcomplete hdone
    have hmarker : g.marker <:+: assemble (p.fill done) first parts := by
      rw [← Text.occurrences_pos_iff g.marker_ne_nil, hcount]
      exact hg
    rw [← List.singleton_append, ← List.append_assoc] at hnodup ⊢
    rw [List.singleton_append, substitute_cons p gs hmarker, hreplace, ih hpresent _ hnodup, hcount]
    rfl

end SageEditor.Highlight

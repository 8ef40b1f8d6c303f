/-
Words of the shell that stand for one text.

* `ShellWord.IsConstant` — nothing in a word is expanded, and its text is no pattern for files;
* `ShellWord.isConstant_joined` — joining the texts of a word does not change what it stands for;
* `expandAll_eq` — in every state of the shell constant words expand to their texts.

Design notes: characters of which a pattern is made stand for themselves where they are quoted.  An
empty word has to be quoted, or it would be no word at all.
-/
import SageEditor.Proofs.Shell.Literal
import SageEditor.Shell.Run

namespace SageEditor.Shell

/-- Whether a character belongs to patterns for files where it is not quoted. -/
def isMagic (c : Char) : Bool := ['*', '?', '['].contains c

/-- Whether a part of a word stands for its own text, whatever files there are. -/
def Part.isFixed : Part → Bool
  | .text cs quoted => quoted || cs.all (!isMagic ·)
  | _ => false

namespace ShellWord

/-- Whether a word begins with a tilde that may stand for a directory. -/
def opensHome : ShellWord → Bool
  | .text cs quoted :: _ => !quoted && cs.head? == some '~'
  | _ => false

/-- A word that stands for its text in every state of the shell. -/
structure IsConstant (w : ShellWord) : Prop where
  fixed : w.all Part.isFixed = true
  /-- The word is there even if its text is empty. -/
  present : w.text ≠ [] ∨ w.any Part.isQuoted = true
  home : w.opensHome = false

/-! ### Joined texts -/

theorem joined_text (cs : List Char) (q : Bool) (rest : ShellWord) :
    joined (.text cs q :: rest) = .text cs q :: joined rest ∨
      ∃ ds more, joined rest = .text ds q :: more ∧ cs ≠ [] ∧
        joined (.text cs q :: rest) = .text (cs ++ ds) q :: more := by
  rw [joined]
  split
  · next ds r more hrest =>
    split
    · next hjoin =>
      obtain ⟨⟨rfl, hcs⟩, -⟩ : (q = r ∧ cs ≠ []) ∧ ds ≠ [] := by simpa using hjoin
      exact .inr ⟨ds, more, hrest, hcs, rfl⟩
    · exact .inl (by rw [hrest])
  · exact .inl rfl

theorem joined_cons {p : Part} (hp : p.literal? = none) (rest : ShellWord) :
    joined (p :: rest) = p :: joined rest := by
  cases p with
  | text => cases hp
  | _ => rw [joined]; simp

theorem text_joined : ∀ w : ShellWord, w.joined.text = w.text
  | [] => rfl
  | p :: rest => by
    have ih := text_joined rest
    cases p with
    | text cs q =>
      obtain h | ⟨ds, more, hrest, -, h⟩ := joined_text cs q rest
      · rw [h, text_cons, text_cons, ih]
      · rw [hrest, text_cons] at ih
        rw [h, text_cons, text_cons, ← ih, List.append_assoc]
    | _ =>
      rw [joined_cons rfl]
      exact congrArg (_ ++ ·) ih

theorem all_joined {f : Part → Bool}
    (hf : ∀ cs ds q, f (.text (cs ++ ds) q) = (f (.text cs q) && f (.text ds q))) :
    ∀ w : ShellWord, w.joined.all f = w.all f
  | [] => rfl
  | p :: rest => by
    have ih := all_joined hf rest
    cases p with
    | text cs q =>
      obtain h | ⟨ds, more, hrest, -, h⟩ := joined_text cs q rest
      · rw [h, List.all_cons, List.all_cons, ih]
      · rw [hrest, List.all_cons] at ih
        rw [h, List.all_cons, List.all_cons, ← ih, hf, Bool.and_assoc]
    | _ => rw [joined_cons rfl, List.all_cons, List.all_cons, ih]

theorem all_isFixed_joined (w : ShellWord) : w.joined.all Part.isFixed = w.all Part.isFixed :=
  all_joined (fun _ _ q => by cases q <;> simp [Part.isFixed]) w

theorem any_isQuoted_joined (w : ShellWord) : w.joined.any Part.isQuoted = w.any Part.isQuoted := by
  have hnone := all_joined (f := fun p => !p.isQuoted) (fun _ _ q => by simp [Part.isQuoted]) w
  simpa [List.all_eq_not_any_not] using hnone

theorem opensHome_joined (w : ShellWord) : w.joined.opensHome = w.opensHome := by
  cases w with
  | nil => rfl
  | cons p rest =>
    cases p with
    | text cs q =>
      obtain h | ⟨ds, more, hrest, hcs, h⟩ := joined_text cs q rest
      · rw [h]
        rfl
      · obtain ⟨c, cs, rfl⟩ := List.exists_cons_of_ne_nil hcs
        rw [h]
        rfl
    | _ => rw [joined_cons rfl]; rfl

/-- Joining texts does not change what a word stands for. -/
theorem isConstant_joined {w : ShellWord} : w.joined.IsConstant ↔ w.IsConstant := by
  constructor <;> rintro ⟨hfixed, hpresent, hhome⟩ <;>
    exact ⟨all_isFixed_joined w ▸ hfixed, text_joined w ▸ any_isQuoted_joined w ▸ hpresent,
      opensHome_joined w ▸ hhome⟩

/-! ### Expansion -/

theorem IsConstant.withHome_eq {w : ShellWord} (h : w.IsConstant) (s : State) :
    withHome s w = w := by
  unfold withHome
  split
  · have := h.home
    simp [opensHome] at this
  · rfl

end ShellWord

theorem run_bind_of_eq {α β : Type} {x : Action α} {f : α → Action β} {a : α} {s s' : State}
    (h : x.run s = (a, s')) : (x >>= f).run s = (f a).run s' := by
  rw [StateT.run_bind, h]
  rfl

theorem run_get_bind {β : Type} {f : State → Action β} {s : State} :
    (get >>= f).run s = (f s).run s := rfl

theorem run_hasJump_bind {β : Type} {f : Bool → Action β} {s : State} (hs : s.jump = none) :
    (hasJump >>= f).run s = (f false).run s :=
  run_bind_of_eq (by rw [hasJump, run_get_bind, hs]; rfl)

/-- The glyphs of a text. -/
def Part.glyphs : Part → List Glyph
  | .text cs quoted => (if quoted then [.hold] else []) ++ cs.map fun c => .char c quoted false
  | _ => []

namespace ShellWord

theorem expand_fixed : ∀ (w : ShellWord) {n : Nat} {s : State}, w.all Part.isFixed = true →
    w.length < n → s.jump = none → (expand false n w).run s = (w.flatMap Part.glyphs, s)
  | [], n + 1, s, _, _, _ => by rw [expand]; rfl
  | p :: rest, n + 2, s, hfixed, hn, hs => by
    obtain ⟨hp, hrest⟩ := List.all_cons ▸ hfixed |> Bool.and_eq_true_iff.mp
    have ih := expand_fixed rest (n := n + 1) (s := s) hrest (Nat.lt_of_succ_lt_succ hn) hs
    cases p with
    | text cs q =>
      rw [expand, expandPart]
      simp [hasJump, hs, ih, Part.glyphs]
      rfl
    | _ => cases hp

end ShellWord

/-- Whether a glyph neither ends a field nor separates. -/
def Glyph.isSolid : Glyph → Bool
  | .char _ _ splits => !splits
  | .hold => true
  | .boundary => false

theorem foldl_pass (separators : List Char) : ∀ (gs : List Glyph) (st : Splitting),
    gs.all Glyph.isSolid = true → gs ≠ [] →
      gs.foldl (Splitting.pass separators) st =
        ⟨st.complete, some ((unsplit gs).reverse ++ st.current.getD []), false⟩
  | [g], st, hsolid, _ => by
    cases g <;> simp_all [Glyph.isSolid, Splitting.pass, unsplit]
  | g :: g' :: gs, st, hsolid, _ => by
    obtain ⟨hg, hgs⟩ := List.all_cons ▸ hsolid |> Bool.and_eq_true_iff.mp
    rw [List.foldl_cons, foldl_pass separators (g' :: gs) _ hgs (List.cons_ne_nil _ _)]
    cases g <;> simp_all [Glyph.isSolid, Splitting.pass, unsplit]

/-- Glyphs that neither end a field nor separate form one field. -/
theorem fields_of_isSolid (separators : List Char) {gs : List Glyph}
    (hsolid : gs.all Glyph.isSolid = true) (hne : gs ≠ []) :
    fields separators gs = [unsplit gs] := by
  rw [fields, foldl_pass separators gs _ hsolid hne]
  simp [Splitting.start, Splitting.close]

/-- Without stars, question marks and brackets that are not quoted a field is no pattern. -/
theorem isProper_ofGlyphsUpTo : ∀ (n : Nat) (field : Field),
    field.all (fun c => c.2 || !isMagic c.1) = true →
      (Pattern.ofGlyphsUpTo n field).isProper = false
  | 0, _, _ => rfl
  | _ + 1, [], _ => rfl
  | n + 1, (c, quoted) :: rest, h => by
    obtain ⟨hc, hrest⟩ := List.all_cons ▸ h |> Bool.and_eq_true_iff.mp
    have hone (a : Char) (p : Pattern) (hp : p.isProper = false) :
        Pattern.isProper (.one a :: p) = false := hp
    have ih := isProper_ofGlyphsUpTo n rest hrest
    cases quoted with
    | true => exact hone c _ ih
    | false =>
      obtain ⟨hstar, hmark, hbracket⟩ : c ≠ '*' ∧ c ≠ '?' ∧ c ≠ '[' := by simpa [isMagic] using hc
      by_cases hslash : c = '\\'
      · -- A backslash gives the character behind it.
        subst hslash
        match rest with
        | [] => exact hone '\\' _ ih
        | (d, q) :: rest =>
          exact hone d _ (isProper_ofGlyphsUpTo n rest (Bool.and_eq_true_iff.mp hrest).2)
      · rw [Pattern.ofGlyphsUpTo] <;> simp_all

/-- A field that is no pattern stands for its text. -/
theorem namesOf_of_all (s : State) {field : Field}
    (h : field.all (fun c => c.2 || !isMagic c.1) = true) :
    namesOf s field = [field.map (·.1)] := by
  simp [namesOf, Pattern.ofGlyphs, isProper_ofGlyphsUpTo _ _ h]

/-- The characters of a part, with whether they are quoted. -/
def Part.field (p : Part) : Field := (p.literal?.getD []).map (·, p.isQuoted)

theorem unsplit_append (gs gs' : List Glyph) : unsplit (gs ++ gs') = unsplit gs ++ unsplit gs' := by
  induction gs with
  | nil => rfl
  | cons g gs ih => cases g <;> simp [unsplit, ih]

theorem unsplit_glyphs (p : Part) : unsplit p.glyphs = p.field := by
  cases p with
  | text cs q =>
    have hchars : unsplit (cs.map fun c => .char c q false) = cs.map (·, q) := by
      induction cs with
      | nil => rfl
      | cons c cs ih => rw [List.map_cons, unsplit, ih]; rfl
    rw [Part.glyphs, unsplit_append, hchars]
    cases q <;> rfl
  | _ => rfl

theorem unsplit_flatMap (w : ShellWord) :
    unsplit (w.flatMap Part.glyphs) = w.flatMap Part.field := by
  induction w with
  | nil => rfl
  | cons p w ih => rw [List.flatMap_cons, unsplit_append, unsplit_glyphs, ih, List.flatMap_cons]

namespace ShellWord.IsConstant

variable {w : ShellWord}

theorem map_field (w : ShellWord) : (w.flatMap Part.field).map (·.1) = w.text := by
  rw [List.map_flatMap, text]
  simp [Part.field, Function.comp_def]

theorem all_isSolid (w : ShellWord) : (w.flatMap Part.glyphs).all Glyph.isSolid = true := by
  rw [List.all_flatMap]
  refine List.all_eq_true.mpr fun p _ => ?_
  cases p with
  | text cs q => cases q <;> simp [Part.glyphs, Glyph.isSolid]
  | _ => rfl

theorem glyphs_ne_nil (h : w.IsConstant) : w.flatMap Part.glyphs ≠ [] := by
  intro hnil
  have hfield : w.flatMap Part.field = [] := by rw [← unsplit_flatMap, hnil]; rfl
  obtain htext | hquoted := h.present
  · exact htext (by rw [← map_field, hfield]; rfl)
  · obtain ⟨p, hp, hq⟩ := List.any_eq_true.mp hquoted
    have := List.flatMap_eq_nil_iff.mp hnil p hp
    have hfixed := List.all_eq_true.mp h.fixed p hp
    cases p with
    | text cs q => cases hq; cases this
    | _ => cases hfixed

theorem all_field (h : w.IsConstant) :
    (w.flatMap Part.field).all (fun c => c.2 || !isMagic c.1) = true := by
  rw [List.all_flatMap]
  refine List.all_eq_true.mpr fun p hp => ?_
  have hfixed := List.all_eq_true.mp h.fixed p hp
  cases p with
  | text cs q =>
    cases q <;> simp_all [Part.field, Part.isFixed, Part.literal?, Part.isQuoted]
  | _ => cases hfixed

/-- A constant word stands for its text alone, in every state. -/
theorem expandFields_eq (h : w.IsConstant) {n : Nat} {s : State} (hn : w.length + 1 < n)
    (hs : s.jump = none) : (expandFields n w).run s = ([w.text], s) := by
  obtain ⟨n, rfl⟩ : ∃ m, n = m + 1 := ⟨n - 1, by omega⟩
  have hexpand := expand_fixed w h.fixed (Nat.lt_of_succ_lt_succ hn) hs
  rw [expandFields, run_get_bind, h.withHome_eq, run_bind_of_eq hexpand, run_hasJump_bind hs]
  simp [fields_of_isSolid _ (all_isSolid w) h.glyphs_ne_nil, unsplit_flatMap,
    namesOf_of_all s h.all_field, map_field]
  rfl

end ShellWord.IsConstant

/-- Constant words stand for their texts, in every state. -/
theorem expandAll_eq : ∀ {ws : List ShellWord} {n : Nat} {s : State},
    (∀ w ∈ ws, w.IsConstant) → (∀ w ∈ ws, w.length + ws.length + 1 < n) → s.jump = none →
      (expandAll n ws).run s = (ws.map ShellWord.text, s)
  | [], n, s, _, _, _ => by cases n <;> rfl
  | w :: ws, n, s, hws, hn, hs => by
    obtain ⟨hw, hrest⟩ := List.forall_mem_cons.mp hws
    obtain ⟨hnw, hnrest⟩ := List.forall_mem_cons.mp hn
    rw [List.length_cons] at hnw hnrest
    obtain ⟨n, rfl⟩ : ∃ m, n = m + 1 := ⟨n - 1, by omega⟩
    have hfirst := hw.expandFields_eq (n := n) (s := s) (by omega) hs
    have hmore := expandAll_eq hrest (n := n) (fun w' hw' => by have := hnrest w' hw'; omega) hs
    rw [expandAll, run_bind_of_eq hfirst, run_hasJump_bind hs]
    exact run_bind_of_eq hmore

end SageEditor.Shell

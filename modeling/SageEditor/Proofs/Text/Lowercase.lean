/-
Lowercasing of texts that go on.

* `SigmaContinues` — a capital sigma that ends a word as a text stands, and is inside a word once
  more text follows;
* `lowercaseAfter_prefix_append_iff` — the small form of a text begins that of a longer one, unless
  a sigma continues;
* `lowercaseAfter_prefix_iff` — where both the small form of a text and that of a longer one begin
  a third text is decided by the same condition.

Design notes: every other character has a small form of its own, and both small forms of a sigma
have one character.  So the small form of a text keeps its length when more text follows, and it
changes in one place at most.
-/
import Mathlib.Data.List.DropRight
import SageEditor.Text.Lowercase

namespace SageEditor.Text

variable {before cs rest : List Char}

/-- Only case-ignorable characters, which are looked through when a sigma is lowercased. -/
def IsIgnorable (cs : List Char) : Prop :=
  ∀ c ∈ cs, caseIgnorable.contains c.toNat = true

/-! ### What a sigma looks at -/

theorem dropWhile_eq_nil_of_isIgnorable (h : IsIgnorable cs) :
    (cs.dropWhile fun c => caseIgnorable.contains c.toNat) = [] :=
  List.dropWhile_eq_nil_iff.mpr h

theorem beginsCased_of_isIgnorable (h : IsIgnorable cs) : beginsCased cs = false := by
  rw [beginsCased, dropWhile_eq_nil_of_isIgnorable h]

theorem beginsCased_append_of_isIgnorable (h : IsIgnorable cs) :
    beginsCased (cs ++ rest) = beginsCased rest := by
  rw [beginsCased, List.dropWhile_append, dropWhile_eq_nil_of_isIgnorable h]
  rfl

theorem beginsCased_append_of_not_isIgnorable (h : ¬ IsIgnorable cs) :
    beginsCased (cs ++ rest) = beginsCased cs := by
  have hne : (cs.dropWhile fun c => caseIgnorable.contains c.toNat) ≠ [] := by
    rwa [ne_eq, List.dropWhile_eq_nil_iff]
  obtain ⟨c, tail, hdrop⟩ := List.exists_cons_of_ne_nil hne
  rw [beginsCased, beginsCased, List.dropWhile_append, hdrop]
  rfl

/-! ### The small form of one character in its place -/

/-- The small form of a character between two texts, the one before it in reverse. -/
def smallForm (before : List Char) (c : Char) (rest : List Char) : List Char :=
  if c == 'Σ' then if beginsCased before && !beginsCased rest then ['ς'] else ['σ']
  else lowercaseChar c

theorem lowercaseAfter_cons (before : List Char) (c : Char) (cs : List Char) :
    lowercaseAfter before (c :: cs) = smallForm before c cs ++ lowercaseAfter (c :: before) cs :=
  rfl

theorem length_smallForm (before : List Char) (c : Char) (cs rest : List Char) :
    (smallForm before c cs).length = (smallForm before c rest).length := by
  rw [smallForm, smallForm]
  split
  · split <;> split <;> rfl
  · rfl

/-- A small form changes if it is that of a sigma behind something cased and what follows the text
is the first cased character behind the sigma. -/
theorem smallForm_append_eq_iff {c : Char} :
    smallForm before c (cs ++ rest) = smallForm before c cs ↔
      ¬ (c = 'Σ' ∧ beginsCased before = true ∧ IsIgnorable cs ∧ beginsCased rest = true) := by
  by_cases hc : c = 'Σ'
  · by_cases hignorable : IsIgnorable cs
    · rw [smallForm, smallForm, beginsCased_append_of_isIgnorable hignorable,
        beginsCased_of_isIgnorable hignorable]
      cases hbefore : beginsCased before <;> cases hrest : beginsCased rest <;>
        simp [hc, hignorable]
    · rw [smallForm, smallForm, beginsCased_append_of_not_isIgnorable hignorable]
      simp [hignorable]
  · simp [smallForm, hc]

/-! ### Texts that go on -/

/-- A capital sigma of `cs` ends a word as the text stands behind `before`, which is in reverse,
and is inside a word once `rest` follows: something cased stands before the sigma, and `rest` has
the first cased character behind it. -/
def SigmaContinues (before cs rest : List Char) : Prop :=
  ∃ front marks, cs = front ++ 'Σ' :: marks ∧ beginsCased (front.reverse ++ before) = true ∧
    IsIgnorable marks ∧ beginsCased rest = true

theorem not_sigmaContinues_nil : ¬ SigmaContinues before [] rest := by
  rintro ⟨front, marks, h, -⟩
  simp at h

theorem sigmaContinues_cons {c : Char} :
    SigmaContinues before (c :: cs) rest ↔
      (c = 'Σ' ∧ beginsCased before = true ∧ IsIgnorable cs ∧ beginsCased rest = true) ∨
        SigmaContinues (c :: before) cs rest := by
  constructor
  · rintro ⟨front, marks, h, hbefore, hmarks, hrest⟩
    cases front with
    | nil =>
      obtain ⟨rfl, rfl⟩ := List.cons.inj h
      exact .inl ⟨rfl, hbefore, hmarks, hrest⟩
    | cons d front =>
      obtain ⟨rfl, rfl⟩ := List.cons.inj h
      refine .inr ⟨front, marks, rfl, ?_, hmarks, hrest⟩
      simpa using hbefore
  · rintro (⟨rfl, hbefore, hmarks, hrest⟩ | ⟨front, marks, rfl, hbefore, hmarks, hrest⟩)
    · exact ⟨[], cs, rfl, hbefore, hmarks, hrest⟩
    · exact ⟨c :: front, marks, rfl, by simpa using hbefore, hmarks, hrest⟩

/-- What becomes of the small form of a text when more text follows. -/
theorem exists_lowercaseAfter_append (before cs rest : List Char) :
    ∃ small, lowercaseAfter before (cs ++ rest) =
        small ++ lowercaseAfter (cs.reverse ++ before) rest ∧
      small.length = (lowercaseAfter before cs).length ∧
      (small = lowercaseAfter before cs ↔ ¬ SigmaContinues before cs rest) := by
  induction cs generalizing before with
  | nil => exact ⟨[], rfl, rfl, iff_of_true rfl not_sigmaContinues_nil⟩
  | cons c cs ih =>
    obtain ⟨small, happend, hlength, hsame⟩ := ih (c :: before)
    have hfirst := length_smallForm before c (cs ++ rest) cs
    refine ⟨smallForm before c (cs ++ rest) ++ small, ?_, ?_, ?_⟩
    · rw [List.cons_append, lowercaseAfter_cons, happend]
      simp
    · rw [lowercaseAfter_cons, List.length_append, List.length_append, hfirst, hlength]
    · rw [lowercaseAfter_cons, List.append_eq_append_iff_of_size_eq_left hfirst,
        smallForm_append_eq_iff, hsame, sigmaContinues_cons, not_or]

/-- The small form of a text begins that of a longer one, unless a sigma continues. -/
theorem lowercaseAfter_prefix_append_iff :
    lowercaseAfter before cs <+: lowercaseAfter before (cs ++ rest) ↔
      ¬ SigmaContinues before cs rest := by
  obtain ⟨small, happend, hlength, hsame⟩ := exists_lowercaseAfter_append before cs rest
  rw [happend, ← hsame]
  constructor
  · intro h
    have hsmall := List.prefix_append small (lowercaseAfter (cs.reverse ++ before) rest)
    exact ((List.prefix_of_prefix_length_le h hsmall hlength.ge).eq_of_length hlength.symm).symm
  · intro h
    rw [h]
    exact List.prefix_append _ _

/-- Where the small form of a longer text begins a text, that of the shorter one does unless a
sigma continues. -/
theorem lowercaseAfter_prefix_iff {text : List Char}
    (h : lowercaseAfter before (cs ++ rest) <+: text) :
    lowercaseAfter before cs <+: text ↔ ¬ SigmaContinues before cs rest := by
  rw [← lowercaseAfter_prefix_append_iff]
  constructor
  · intro hshort
    obtain ⟨small, happend, hlength, -⟩ := exists_lowercaseAfter_append before cs rest
    refine List.prefix_of_prefix_length_le hshort h ?_
    rw [happend, List.length_append, hlength]
    exact Nat.le_add_right _ _
  · exact fun hshort => hshort.trans h

end SageEditor.Text

/-
The word under a cursor and what is completed there.

* `IsWordSpan` — the characters from one number up to another are a maximal run of word
  characters of a line;
* `wordAt_eq_some_iff_span` — the word at a position is the one whose span the position touches;
* `wordAt_maximal` — it is found exactly where a word character touches the position, and from its
  first column to the one behind it nothing else is found;
* `prefixAt_left_of_cursor` — what is completed is what stands of that word before the position;
  beyond the end of a line, it is the word that ends the line.

Design notes: a span is told by the numbers of characters and a range by columns.  Both grow
together, so a range belongs to one span, and a position touches one word at most.
-/
import SageEditor.Proofs.Document.Word

namespace SageEditor

namespace Text

/-- The characters from number `a` up to number `b` are a maximal run of word characters. -/
structure IsWordSpan (chars : List Char) (a b : ℕ) : Prop where
  lt : a < b
  le_length : b ≤ chars.length
  all : ∀ i, a ≤ i → i < b → chars[i]?.any isWordChar = true
  left : 0 < a → chars[a - 1]?.any isWordChar = false
  right : chars[b]?.any isWordChar = false

variable {chars : List Char} {a b k : ℕ}

theorem getLast?_take_any (hk : k ≤ chars.length) :
    (chars.take k).getLast?.any isWordChar = true ↔
      0 < k ∧ chars[k - 1]?.any isWordChar = true := by
  rw [List.getLast?_take]
  cases k with
  | zero => simp
  | succ k =>
    have hchar := List.getElem?_eq_getElem (l := chars) (i := k) (by omega)
    simp [hchar]

theorem wordEnd_take_ne_nil_iff (hk : k ≤ chars.length) :
    wordEnd (chars.take k) ≠ [] ↔ 0 < k ∧ chars[k - 1]?.any isWordChar = true := by
  rw [wordEnd_ne_nil_iff, getLast?_take_any hk]

theorem wordStart_drop_ne_nil_iff :
    wordStart (chars.drop k) ≠ [] ↔ chars[k]?.any isWordChar = true := by
  rw [wordStart_ne_nil_iff, List.head?_drop]

theorem forall_mem_span (h : ∀ i, a ≤ i → i < b → chars[i]?.any isWordChar = true) :
    ∀ c ∈ (chars.take b).drop a, isWordChar c = true := by
  intro c hc
  obtain ⟨i, hi⟩ := List.mem_iff_getElem?.mp hc
  rw [List.getElem?_drop, List.getElem?_take] at hi
  obtain ⟨hib, hi⟩ := Option.ite_none_right_eq_some.mp hi
  have hword := h (a + i) (Nat.le_add_right _ _) hib
  rwa [hi, Option.any_some] at hword

/-- The characters of a span are a word between those before it and those behind it. -/
theorem isWordSpan_iff_isWord (hab : a ≤ b) (hb : b ≤ chars.length) :
    IsWordSpan chars a b ↔ IsWord (chars.take a) ((chars.take b).drop a) (chars.drop b) := by
  have hleft := getLast?_take_any (hab.trans hb)
  constructor
  · intro h
    refine ⟨?_, ?_, ?_, ?_⟩
    · intro hnil
      have hlength := congrArg List.length hnil
      have hlt := h.lt
      rw [List.length_drop, List.length_take_of_le hb, List.length_nil] at hlength
      omega
    · exact forall_mem_span h.all
    · rw [← Bool.not_eq_true, hleft]
      rintro ⟨hpos, hbefore⟩
      exact absurd hbefore (by rw [h.left hpos]; decide)
    · rw [List.head?_drop]
      exact h.right
  · intro h
    refine ⟨?_, hb, ?_, ?_, ?_⟩
    · have hlength := List.length_pos_iff.mpr h.ne_nil
      rw [List.length_drop, List.length_take_of_le hb] at hlength
      omega
    · intro i hai hib
      have hi : i < chars.length := by omega
      rw [List.getElem?_eq_getElem hi, Option.any_some]
      refine h.all _ (List.mem_iff_getElem?.mpr ⟨i - a, ?_⟩)
      rw [List.getElem?_drop, Nat.add_sub_cancel' hai, List.getElem?_take_of_lt hib,
        List.getElem?_eq_getElem hi]
    · intro hpos
      rw [← Bool.not_eq_true]
      intro hbefore
      exact absurd (hleft.mpr ⟨hpos, hbefore⟩) (by rw [h.left]; decide)
    · rw [← List.head?_drop]
      exact h.right

/-- A word between what stands before it and what stands behind it, as a span. -/
theorem isWordSpan_append {before word after : List Char} (hword : IsWord before word after) :
    IsWordSpan (before ++ word ++ after) before.length (before ++ word).length := by
  rw [isWordSpan_iff_isWord, take_before, List.take_left, List.drop_left, List.drop_left]
  · exact hword
  · exact (List.prefix_append before word).length_le
  · exact (List.prefix_append _ after).length_le

/-- A place in a line touches one word at most. -/
theorem IsWordSpan.unique {a' b' : ℕ} (h : IsWordSpan chars a b) (h' : IsWordSpan chars a' b')
    (hak : a ≤ k) (hkb : k ≤ b) (hak' : a' ≤ k) (hkb' : k ≤ b') : a' = a ∧ b' = b := by
  have hlt := h.lt
  have hlt' := h'.lt
  constructor
  · -- The character before the later beginning would be one of the other word.
    rcases lt_trichotomy a' a with hlt | heq | hlt
    · have hword := h'.all (a - 1) (by omega) (by omega)
      rw [h.left (by omega)] at hword
      cases hword
    · exact heq
    · have hword := h.all (a' - 1) (by omega) (by omega)
      rw [h'.left (by omega)] at hword
      cases hword
  · rcases lt_trichotomy b' b with hlt | heq | hlt
    · have hword := h.all b' (by omega) hlt
      rw [h'.right] at hword
      cases hword
    · exact heq
    · have hword := h'.all b (by omega) hlt
      rw [h.right] at hword
      cases hword

end Text

namespace Document

open Text

variable {d : Document} {n column : ℕ} {chars : List Char} {a b k : ℕ} {w : Word}

/-- The characters of a span as a word of a document. -/
def spanWord (n : ℕ) (chars : List Char) (a b : ℕ) : Word :=
  ⟨String.ofList ((chars.take b).drop a), ⟨n, units16 (chars.take a)⟩, ⟨n, units16 (chars.take b)⟩⟩

theorem spanWord_append (n : ℕ) (before word after : List Char) :
    spanWord n (before ++ word ++ after) before.length (before ++ word).length =
      ⟨String.ofList word, ⟨n, units16 before⟩, ⟨n, units16 (before ++ word)⟩⟩ := by
  rw [spanWord, take_before, List.take_left, List.drop_left]

/-- The word at a position is the one whose span the position touches. -/
theorem wordAt_eq_some_iff_span (hline : d.line? n = some chars)
    (hcolumn : IsColumn chars column k) :
    d.wordAt ⟨n, column⟩ = some w ↔
      ∃ a b, IsWordSpan chars a b ∧ a ≤ k ∧ k ≤ b ∧ w = spanWord n chars a b := by
  rw [wordAt_eq_some_iff]
  constructor
  · rintro ⟨before, left, right, after, hline', hcolumn', hword, rfl⟩
    obtain rfl := Option.some.inj (hline.symm.trans hline')
    obtain rfl := hcolumn.unique hcolumn'
    have hsplit : before ++ left ++ (right ++ after) = before ++ (left ++ right) ++ after := by
      simp only [List.append_assoc]
    rw [hsplit]
    refine ⟨_, _, isWordSpan_append hword, ?_, ?_, (spanWord_append ..).symm⟩
    · exact (List.prefix_append before left).length_le
    · rw [← List.append_assoc]
      exact (List.prefix_append (before ++ left) right).length_le
  · rintro ⟨a, b, hspan, hak, hkb, rfl⟩
    have hleft := take_append_span chars hak
    have hright := take_append_span chars hkb
    have hspanned := take_append_span chars (hak.trans hkb)
    have hword : (chars.take k).drop a ++ (chars.take b).drop k = (chars.take b).drop a := by
      rw [← List.append_right_inj (chars.take a), ← List.append_assoc, hleft, hright, hspanned]
    have hrest : (chars.take b).drop k ++ chars.drop b = chars.drop k := by
      rw [← List.append_right_inj (chars.take k), ← List.append_assoc, hright,
        List.take_append_drop, List.take_append_drop]
    refine ⟨chars.take a, (chars.take k).drop a, (chars.take b).drop k, chars.drop b,
      ?_, ?_, ?_, ?_⟩
    · rw [hleft, hrest, List.take_append_drop, hline]
    · rw [hleft, hrest, List.take_append_drop, List.length_take_of_le hcolumn.le_length]
      exact hcolumn
    · rw [hword]
      exact (isWordSpan_iff_isWord hspan.lt.le hspan.le_length).mp hspan
    · rw [hword, hspanned, spanWord]

/-- **The word at a position is the maximal run of word characters there.**  It is found exactly
where the line exists, the column is not beyond its end, and the character that the column stands
for or the one before it is a word character.  It is then the one run that the position touches,
the units of the line between the two ends of its range are those of its text and of no other,
neither end cuts a pair of surrogates, and it is found at all columns from one end to the other. -/
theorem wordAt_maximal (d : Document) (n column : ℕ) :
    ((∃ w, d.wordAt ⟨n, column⟩ = some w) ↔
      ∃ chars k, d.line? n = some chars ∧ column ≤ units16 chars ∧ IsColumn chars column k ∧
        (chars[k]?.any isWordChar = true ∨ 0 < k ∧ chars[k - 1]?.any isWordChar = true)) ∧
    ∀ w, d.wordAt ⟨n, column⟩ = some w → ∃ chars k a b,
      d.line? n = some chars ∧ IsColumn chars column k ∧
      IsWordSpan chars a b ∧ a ≤ k ∧ k ≤ b ∧
      (∀ a' b', IsWordSpan chars a' b' → a' ≤ k → k ≤ b' → a' = a ∧ b' = b) ∧
      w.text = String.ofList ((chars.take b).drop a) ∧
      w.range.start.line = n ∧ w.range.stop.line = n ∧
      (∀ cs, encode16 cs = ((encode16 chars).take w.range.stop.character).drop
        w.range.start.character ↔ cs = w.text.toList) ∧
      (∀ unit, (encode16 chars)[w.range.start.character]? = some unit ∨
        (encode16 chars)[w.range.stop.character]? = some unit → ¬ IsTrailing unit) ∧
      ∀ column', w.range.start.character ≤ column' → column' ≤ w.range.stop.character →
        d.wordAt ⟨n, column'⟩ = some w := by
  constructor
  · rw [exists_wordAt_iff]
    constructor
    · rintro ⟨chars, k, hline, hcolumn, htouch⟩
      refine ⟨chars, k, hline, hcolumn.le_units16, hcolumn, ?_⟩
      rwa [wordEnd_take_ne_nil_iff hcolumn.le_length, wordStart_drop_ne_nil_iff, or_comm] at htouch
    · rintro ⟨chars, k, hline, -, hcolumn, htouch⟩
      refine ⟨chars, k, hline, hcolumn, ?_⟩
      rwa [wordEnd_take_ne_nil_iff hcolumn.le_length, wordStart_drop_ne_nil_iff, or_comm]
  · intro w h
    obtain ⟨chars, k, hline, hcolumn, -⟩ := exists_wordAt_iff.mp ⟨w, h⟩
    obtain ⟨a, b, hspan, hak, hkb, rfl⟩ := (wordAt_eq_some_iff_span hline hcolumn).mp h
    refine ⟨chars, k, a, b, hline, hcolumn, hspan, hak, hkb, ?_, rfl, rfl, rfl, ?_, ?_, ?_⟩
    · intro a' b' hspan' hak' hkb'
      exact hspan.unique hspan' hak hkb hak' hkb'
    · intro cs
      rw [spanWord, slice_encode16 chars hspan.lt.le, encode16_injective.eq_iff,
        String.toList_ofList]
    · rintro unit (hunit | hunit)
      · exact not_isTrailing_of_getElem? hunit
      · exact not_isTrailing_of_getElem? hunit
    · intro column' hfirst hlast
      -- Between the two ends, a column stands for a character that the span touches.
      have hbehind : column' ≤ units16 chars := by
        have hsum := units16_take_add_drop chars b
        change column' ≤ units16 (chars.take b) at hlast
        omega
      obtain ⟨k', hcolumn'⟩ := exists_isColumn hbehind
      obtain ⟨hak', hkb'⟩ := hcolumn'.between hspan.lt.le hspan.le_length hfirst hlast
      exact (wordAt_eq_some_iff_span hline hcolumn').mpr ⟨a, b, hspan, hak', hkb', rfl⟩

/-- On the second line, the word begins with a character of two units. -/
def astral : Document := ⟨"ab\n😀 𝔽x1+"⟩

theorem wordAt_maximal_astral :
    astral.wordAt ⟨1, 4⟩ = some ⟨"𝔽x1", ⟨1, 3⟩, ⟨1, 7⟩⟩ ∧
      astral.wordAt ⟨1, 7⟩ = some ⟨"𝔽x1", ⟨1, 3⟩, ⟨1, 7⟩⟩ ∧
      encode16 "𝔽x1".toList = ((encode16 "😀 𝔽x1+".toList).take 7).drop 3 ∧
      ∃ a b, IsWordSpan "😀 𝔽x1+".toList a b ∧
        String.ofList (("😀 𝔽x1+".toList.take b).drop a) = "𝔽x1" := by
  have hword : astral.wordAt ⟨1, 4⟩ = some ⟨"𝔽x1", ⟨1, 3⟩, ⟨1, 7⟩⟩ := by decide +kernel
  have hsecond : astral.line? 1 = some "😀 𝔽x1+".toList := by decide +kernel
  obtain ⟨chars, k, a, b, hline, -, hspan, -, -, -, htext, -, -, hunits, -, hsame⟩ :=
    (wordAt_maximal astral 1 4).2 _ hword
  obtain rfl := Option.some.inj (hsecond.symm.trans hline)
  exact ⟨hword, hsame 7 (by decide) (by decide), (hunits _).mpr rfl, a, b, hspan, htext.symm⟩

/-! ### What is completed -/

/-- Beyond the end of a line, the word that ends it is completed. -/
theorem prefixAt_beyond (hline : d.line? n = some chars) (hbeyond : units16 chars < column) :
    d.prefixAt ⟨n, column⟩ = String.ofList (wordEnd chars) := by
  simp only [prefixAt, hline, charIndex_eq_none_iff.mpr hbeyond, Option.getD_none,
    List.take_length]

/-- **What is completed is what stands left of the cursor of the word there.**  Where a word is
found, it is the part of it before the character that the column stands for.  Where none is found
and the column is not beyond the end of its line, it is empty.  A column beyond the end of a line
completes what the end of the line does, which is empty only if no word ends the line. -/
theorem prefixAt_left_of_cursor (d : Document) (p : Position) :
    (∀ w, d.wordAt p = some w → ∃ chars k rest, d.line? p.line = some chars ∧
      IsColumn chars p.character k ∧ w.text = d.prefixAt p ++ rest ∧
      w.range.start.character + units16 (d.prefixAt p).toList = units16 (chars.take k)) ∧
    (d.wordAt p = none → (∀ chars, d.line? p.line = some chars → p.character ≤ units16 chars) →
      d.prefixAt p = "") ∧
    ∀ chars, d.line? p.line = some chars → units16 chars < p.character →
      d.wordAt p = none ∧ d.prefixAt p = d.prefixAt ⟨p.line, units16 chars⟩ ∧
        (d.prefixAt p = "" ↔ chars.getLast?.any isWordChar = false) := by
  obtain ⟨n, column⟩ := p
  refine ⟨?_, ?_, ?_⟩
  · intro w h
    obtain ⟨before, left, right, after, hline, hcolumn, hword, rfl⟩ := wordAt_eq_some_iff.mp h
    have hcompleted : d.prefixAt ⟨n, column⟩ = String.ofList left := by
      rw [prefixAt_eq_wordEnd hline hcolumn, List.take_left,
        wordEnd_append (List.forall_mem_append.mp hword.all).1 hword.left]
    refine ⟨_, _, String.ofList right, hline, hcolumn, ?_, ?_⟩
    · rw [hcompleted, ← String.ofList_append]
    · rw [hcompleted, String.toList_ofList, List.take_left, units16_append before left]
  · intro hnone hinside
    cases hline : d.line? n with
    | none => simp only [prefixAt, hline]
    | some chars =>
      obtain ⟨k, hcolumn⟩ := exists_isColumn (hinside chars hline)
      rw [prefixAt_eq_wordEnd hline hcolumn]
      -- Otherwise the word characters before the column would be part of a word.
      by_cases hempty : wordEnd (chars.take k) = []
      · rw [hempty, String.ofList_nil]
      · obtain ⟨w, hw⟩ := exists_wordAt_iff.mpr ⟨chars, k, hline, hcolumn, .inl hempty⟩
        rw [hnone] at hw
        cases hw
  · intro chars hline hbeyond
    have hend : IsColumn chars (units16 chars) chars.length := .stop rfl rfl
    refine ⟨?_, ?_, ?_⟩
    · cases hword : d.wordAt ⟨n, column⟩ with
      | none => rfl
      | some w =>
        obtain ⟨chars', k, hline', hcolumn, -⟩ := exists_wordAt_iff.mp ⟨w, hword⟩
        obtain rfl := Option.some.inj (hline.symm.trans hline')
        exact absurd hbeyond (not_lt.mpr hcolumn.le_units16)
    · rw [prefixAt_beyond hline hbeyond, prefixAt_eq_wordEnd hline hend, List.take_length]
    · rw [prefixAt_beyond hline hbeyond, ← Bool.not_eq_true, ← wordEnd_ne_nil_iff, not_not]
      exact String.ofList_eq_empty_iff

/-- In a line of one word, a position in the word and one beyond the end of the line. -/
theorem prefixAt_left_of_cursor_sin :
    (∃ chars k rest, (Document.mk "sin").line? 0 = some chars ∧ IsColumn chars 2 k ∧
      "sin" = (Document.mk "sin").prefixAt ⟨0, 2⟩ ++ rest ∧
      units16 ((Document.mk "sin").prefixAt ⟨0, 2⟩).toList = units16 (chars.take k)) ∧
    (Document.mk "sin").prefixAt ⟨0, 9⟩ ≠ "" ∧ (Document.mk "sin").prefixAt ⟨1, 0⟩ = "" := by
  have hline : (Document.mk "sin").line? 0 = some "sin".toList := by decide +kernel
  have hword : (Document.mk "sin").wordAt ⟨0, 2⟩ = some ⟨"sin", ⟨0, 0⟩, ⟨0, 3⟩⟩ := by decide +kernel
  refine ⟨?_, ?_, ?_⟩
  · obtain ⟨chars, k, rest, hline, hcolumn, htext, hunits⟩ :=
      (prefixAt_left_of_cursor ⟨"sin"⟩ ⟨0, 2⟩).1 _ hword
    exact ⟨chars, k, rest, hline, hcolumn, htext, by simpa using hunits⟩
  · obtain ⟨-, -, hempty⟩ :=
      (prefixAt_left_of_cursor ⟨"sin"⟩ ⟨0, 9⟩).2.2 _ hline (by decide)
    rw [ne_eq, hempty]
    decide +kernel
  · have hmissing : (Document.mk "sin").line? 1 = none := by decide +kernel
    refine (prefixAt_left_of_cursor ⟨"sin"⟩ ⟨1, 0⟩).2.1 (by decide +kernel) fun chars hline => ?_
    rw [hmissing] at hline
    cases hline

/-- Beyond the end of a line no word is found, and yet one is completed. -/
theorem prefixAt_beyond_sin :
    (Document.mk "sin").wordAt ⟨0, 9⟩ = none ∧ (Document.mk "sin").prefixAt ⟨0, 9⟩ = "sin" := by
  decide +kernel

end Document

end SageEditor

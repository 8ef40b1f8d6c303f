/-
Words of a line and the columns at which they begin and end.

* `IsWord` — a run of word characters with no word character right before it or behind it;
* `wordAt_eq_some_iff` — the word at a position is such a run that the position lies in or touches,
  and its range is that of the run;
* `exists_wordAt_iff` — there is one exactly if some word character touches the position;
* `prefixAt_eq_wordEnd` — what is completed is what stands of a word before the position.

Design notes: a line is taken apart into the characters before a word, those of the word on either
side of the position and those behind the word, so columns are lengths of these parts.
-/
import Mathlib.Data.List.DropRight
import SageEditor.Proofs.Document.Column

namespace SageEditor

namespace Text

/-! ### Words of a line -/

theorem isWordChar_newline : isWordChar '\n' = false := by
  decide +kernel

theorem isWordChar_return : isWordChar '\r' = false := by
  decide +kernel

theorem take_before (before word after : List Char) :
    (before ++ word ++ after).take before.length = before := by
  rw [List.append_assoc, List.take_left]

/-- A maximal run of word characters. -/
structure IsWord (before word after : List Char) : Prop where
  ne_nil : word ≠ []
  all : ∀ c ∈ word, isWordChar c = true
  left : before.getLast?.any isWordChar = false
  right : after.head?.any isWordChar = false

variable {before word after : List Char}

theorem takeWhile_eq_nil {cs : List Char} (h : cs.head?.any isWordChar = false) :
    cs.takeWhile isWordChar = [] := by
  cases cs with
  | nil => rfl
  | cons c cs => exact List.takeWhile_cons_of_neg (by simpa using h)

theorem wordEnd_append (hword : ∀ c ∈ word, isWordChar c = true)
    (hleft : before.getLast?.any isWordChar = false) : wordEnd (before ++ word) = word := by
  rw [← List.head?_reverse] at hleft
  rw [wordEnd, List.reverse_append, List.takeWhile_append_of_pos (by simpa using hword),
    takeWhile_eq_nil hleft, List.append_nil, List.reverse_reverse]

/-- The word characters at the end of some characters, and what stands before them. -/
theorem exists_wordEnd (cs : List Char) :
    ∃ before, cs = before ++ wordEnd cs ∧ (∀ c ∈ wordEnd cs, isWordChar c = true) ∧
      before.getLast?.any isWordChar = false := by
  refine ⟨cs.rdropWhile isWordChar, (List.rdropWhile_append_rtakeWhile ..).symm,
    fun c hc => List.mem_rtakeWhile_imp hc, ?_⟩
  by_cases hnil : cs.rdropWhile isWordChar = []
  · rw [hnil]
    rfl
  · rw [List.getLast?_eq_some_getLast hnil, Option.any_some]
    simpa using List.rdropWhile_last_not _ _ hnil

/-- The word characters at the start of some characters, and what stands behind them. -/
theorem exists_wordStart (cs : List Char) :
    ∃ after, cs = wordStart cs ++ after ∧ (∀ c ∈ wordStart cs, isWordChar c = true) ∧
      after.head?.any isWordChar = false := by
  refine ⟨cs.dropWhile isWordChar, List.takeWhile_append_dropWhile.symm,
    fun c hc => List.mem_takeWhile_imp hc, ?_⟩
  cases hhead : (cs.dropWhile isWordChar).head? with
  | none => rfl
  | some c => simpa [hhead] using List.head?_dropWhile_not isWordChar cs

theorem wordStart_append (hword : ∀ c ∈ word, isWordChar c = true)
    (hright : after.head?.any isWordChar = false) : wordStart (word ++ after) = word := by
  rw [wordStart, List.takeWhile_append_of_pos hword, takeWhile_eq_nil hright, List.append_nil]

theorem wordStart_ne_nil_iff {cs : List Char} :
    wordStart cs ≠ [] ↔ cs.head?.any isWordChar = true := by
  cases cs with
  | nil => simp [wordStart]
  | cons c cs => by_cases hc : isWordChar c = true <;> simp [wordStart, hc]

theorem wordEnd_ne_nil_iff {cs : List Char} :
    wordEnd cs ≠ [] ↔ cs.getLast?.any isWordChar = true := by
  rw [wordEnd, List.reverse_ne_nil_iff, ← List.head?_reverse, ← wordStart_ne_nil_iff, wordStart]

end Text

namespace Document

open Text

variable {d : Document} {n column : ℕ}

/-- The word at a position, with what stands of it before the position and behind it. -/
theorem wordAt_eq_some_iff {w : Word} :
    d.wordAt ⟨n, column⟩ = some w ↔ ∃ before left right after,
      d.line? n = some (before ++ left ++ (right ++ after)) ∧
      IsColumn (before ++ left ++ (right ++ after)) column (before ++ left).length ∧
      IsWord before (left ++ right) after ∧
      w = ⟨String.ofList (left ++ right), ⟨n, units16 before⟩,
        ⟨n, units16 (before ++ (left ++ right))⟩⟩ := by
  constructor
  · intro h
    rw [wordAt] at h
    obtain ⟨line, hline, h⟩ := Option.bind_eq_some_iff.mp h
    obtain ⟨index, hindex, h⟩ := Option.bind_eq_some_iff.mp h
    obtain ⟨hempty, h⟩ := Option.ite_none_left_eq_some.mp h
    obtain ⟨before, hbefore, hleft, hbegins⟩ := exists_wordEnd (line.take index)
    obtain ⟨after, hafter, hright, hends⟩ := exists_wordStart (line.drop index)
    have hcolumn := charIndex_eq_some_iff.mp hindex
    -- The characters before the position are those before the word and its left part.
    have hlength : index = (before ++ wordEnd (line.take index)).length := by
      rw [← hbefore, List.length_take_of_le hcolumn.le_length]
    have hcount : index - (wordEnd (line.take index)).length = before.length := by
      rw [List.length_append] at hlength
      omega
    have htake : line.take before.length = before := by
      have hfront : before = (line.take index).take before.length := by
        conv_rhs => rw [hbefore, List.take_left]
      rw [List.take_take, min_eq_left (by omega)] at hfront
      exact hfront.symm
    refine ⟨before, _, _, after, ?_, ?_, ⟨?_, List.forall_mem_append.mpr ⟨hleft, hright⟩,
      hbegins, hends⟩, ?_⟩
    · rw [← hbefore, ← hafter, List.take_append_drop, hline]
    · rw [← hlength, ← hbefore, ← hafter, List.take_append_drop]
      exact hcolumn
    · simpa [List.append_eq_nil_iff] using hempty
    · simp only [hcount, htake, ← units16_append] at h
      exact (Option.some.inj h).symm
  · rintro ⟨before, left, right, after, hline, hcolumn, hword, rfl⟩
    obtain ⟨hall, hall'⟩ := List.forall_mem_append.mp hword.all
    have hcount : (before ++ left).length - left.length = before.length := by simp
    simp only [wordAt, hline, charIndex_eq_some_iff.mpr hcolumn, Option.bind_eq_bind,
      Option.bind_some, List.take_left, List.drop_left, wordEnd_append hall hword.left,
      wordStart_append hall' hword.right, hcount, take_before, ← units16_append]
    rw [if_neg]
    simpa [List.append_eq_nil_iff] using hword.ne_nil

/-- A word is found exactly where a word character touches the position. -/
theorem exists_wordAt_iff :
    (∃ w, d.wordAt ⟨n, column⟩ = some w) ↔ ∃ line k, d.line? n = some line ∧
      IsColumn line column k ∧ (wordEnd (line.take k) ≠ [] ∨ wordStart (line.drop k) ≠ []) := by
  constructor
  · rintro ⟨w, h⟩
    obtain ⟨before, left, right, after, hline, hcolumn, hword, -⟩ := wordAt_eq_some_iff.mp h
    obtain ⟨hall, hall'⟩ := List.forall_mem_append.mp hword.all
    refine ⟨_, _, hline, hcolumn, ?_⟩
    rw [List.take_left, List.drop_left, wordEnd_append hall hword.left,
      wordStart_append hall' hword.right, ← not_and_or, ← List.append_eq_nil_iff]
    exact hword.ne_nil
  · rintro ⟨line, k, hline, hcolumn, htouch⟩
    have hempty :
        ¬ ((wordEnd (line.take k)).isEmpty && (wordStart (line.drop k)).isEmpty) = true := by
      simpa [← not_and_or] using htouch
    simp only [wordAt, hline, charIndex_eq_some_iff.mpr hcolumn, Option.bind_eq_bind,
      Option.bind_some, if_neg hempty]
    exact ⟨_, rfl⟩

/-- What is completed at a column is what stands of a word before it. -/
theorem prefixAt_eq_wordEnd {line : List Char} {k : ℕ} (hline : d.line? n = some line)
    (hcolumn : IsColumn line column k) :
    d.prefixAt ⟨n, column⟩ = String.ofList (wordEnd (line.take k)) := by
  simp only [prefixAt, hline, charIndex_eq_some_iff.mpr hcolumn, Option.getD_some]

/-- What is completed at the end of a word. -/
theorem prefixAt_wordEnd {before word after : List Char}
    (hline : d.line? n = some (before ++ word ++ after)) (hword : IsWord before word after) :
    d.prefixAt ⟨n, units16 (before ++ word)⟩ = String.ofList word := by
  rw [prefixAt_eq_wordEnd hline (isColumn_append (before ++ word) after), List.take_left,
    wordEnd_append hword.all hword.left]

/-- The word at a position. -/
theorem exists_of_wordAt {p : Position} {w : Word} (h : d.wordAt p = some w) :
    ∃ before word after, d.line? p.line = some (before ++ word ++ after) ∧
      IsWord before word after ∧ w = ⟨String.ofList word, ⟨p.line, units16 before⟩,
        ⟨p.line, units16 (before ++ word)⟩⟩ := by
  obtain ⟨before, left, right, after, hline, -, hword, hw⟩ := wordAt_eq_some_iff.mp h
  refine ⟨before, left ++ right, after, ?_, hword, hw⟩
  simpa only [List.append_assoc] using hline

end Document

end SageEditor

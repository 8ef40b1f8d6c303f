/-
Scans of a line that go by the numbers of its characters.

* `seek_eq_charIndex` — passing over a line with a running count of units finds what the column
  stands for;
* `exists_scanBack`, `exists_scanAhead` — from a place of the line, a scan over word characters
  reads no character that the line does not have, and it ends where these characters do;
* `scanWord_eq`, `scanPrefix_eq` — with every access checked, the scans have no fault and give the
  answers of the document;
* `charIndex_galois` — the columns and the characters of a line are adjoint to each other, and no
  scan that goes by them leaves the line.

Design notes: a scan that goes by numbers can read beyond the line, cut out what does not lie on
it, or count more units than a column holds.  Each of these is a fault here, and a scan that has a
fault gives no answer, so an answer for every position says that none of them ever happens.
-/
import SageEditor.Proofs.Document.Cursor

namespace SageEditor

namespace Text

variable {chars : List Char} {column a b j k : ℕ}

/-! ### Seeking a column -/

/-- Seeks a column in the rest of a line, behind so many units and characters that were passed. -/
def seek (column : ℕ) : (units index : ℕ) → List Char → Option ℕ
  | units, index, [] => if units = column then some index else none
  | units, index, c :: rest =>
    if column ≤ units then some index
    else if column < units + charUnits16 c then some index
    else seek column (units + charUnits16 c) (index + 1) rest

/-- The invariant is that no unit behind the column is passed.  What is left to find is then the
rest of the column in the rest of the line. -/
theorem seek_eq_map {units : ℕ} (hunits : units ≤ column) (index : ℕ) (rest : List Char) :
    seek column units index rest = (charIndex rest (column - units)).map (· + index) := by
  induction rest generalizing units index with
  | nil =>
    rw [seek]
    by_cases hend : units = column
    · rw [if_pos hend, hend, Nat.sub_self, charIndex, Option.map_some, Nat.zero_add]
    · rw [if_neg hend, charIndex_eq_none_iff.mpr, Option.map_none]
      show 0 < column - units
      omega
  | cons c rest ih =>
    rw [seek]
    by_cases hreached : column ≤ units
    · -- The character before this one ended at the column, or this one is the first.
      have hnone : column - units = 0 := by omega
      rw [if_pos hreached, hnone, charIndex, Option.map_some, Nat.zero_add]
    · rw [if_neg hreached, charIndex_cons (by omega)]
      by_cases hinside : column < units + charUnits16 c
      · rw [if_pos hinside, if_pos (by omega), Option.map_some, Nat.zero_add]
      · rw [if_neg hinside, if_neg (by omega), ih (by omega), Option.map_map, Nat.sub_sub]
        congr 1
        funext n
        show n + (index + 1) = n + 1 + index
        omega

theorem seek_eq_charIndex (chars : List Char) (column : ℕ) :
    seek column 0 0 chars = charIndex chars column := by
  rw [seek_eq_map (Nat.zero_le _)]
  exact Option.map_id'

/-! ### Checked access -/

/-- What goes wrong in a scan that goes by numbers. -/
inductive ScanFault where
  /-- A character is read that the line does not have. -/
  | character (index length : ℕ)
  /-- Characters are cut out that do not lie on the line. -/
  | stretch (start stop length : ℕ)
  /-- More units are counted than a column holds. -/
  | overflow (units : ℕ)
deriving DecidableEq, Repr

/-- Reads the character of a number. -/
def charAt (chars : List Char) (index : ℕ) : Except ScanFault Char :=
  match chars[index]? with
  | some c => .ok c
  | none => .error (.character index chars.length)

/-- Cuts out the characters from one number up to another. -/
def stretch (chars : List Char) (start stop : ℕ) : Except ScanFault (List Char) :=
  if start ≤ stop ∧ stop ≤ chars.length then .ok ((chars.take stop).drop start)
  else .error (.stretch start stop chars.length)

/-- Counts the units of some characters in the 32 bits of a column, behind so many units. -/
def count32 (units : ℕ) : List Char → Except ScanFault ℕ
  | [] => .ok units
  | c :: rest =>
    if units + charUnits16 c < UInt32.size then count32 (units + charUnits16 c) rest
    else .error (.overflow (units + charUnits16 c))

theorem charAt_eq (hk : k < chars.length) : charAt chars k = .ok chars[k] := by
  rw [charAt, List.getElem?_eq_getElem hk]

theorem stretch_eq (hjk : j ≤ k) (hk : k ≤ chars.length) :
    stretch chars j k = .ok ((chars.take k).drop j) := by
  rw [stretch, if_pos ⟨hjk, hk⟩]

theorem count32_eq {units : ℕ} {cs : List Char} (h : units + units16 cs < UInt32.size) :
    count32 units cs = .ok (units + units16 cs) := by
  induction cs generalizing units with
  | nil => rfl
  | cons c cs ih =>
    rw [units16] at h ⊢
    rw [count32, if_pos (by omega), ih (by omega), Nat.add_assoc]

/-- A column of a line that is not too long is counted without a fault. -/
theorem count32_take (hwidth : units16 chars < UInt32.size) (k : ℕ) :
    count32 0 (chars.take k) = .ok (units16 (chars.take k)) := by
  have hsum := units16_take_add_drop chars k
  rw [count32_eq (by omega), Nat.zero_add]

/-! ### Scans over word characters -/

/-- Goes back over the word characters before a place. -/
def scanBack (chars : List Char) : (start : ℕ) → Except ScanFault ℕ
  | 0 => .ok 0
  | start + 1 => do
    let c ← charAt chars start
    if isWordChar c then scanBack chars start else return start + 1

/-- Goes ahead over the word characters behind a place. -/
def scanAhead (chars : List Char) (stop : ℕ) : Except ScanFault ℕ :=
  if _hstop : stop < chars.length then do
    let c ← charAt chars stop
    if isWordChar c then scanAhead chars (stop + 1) else return stop
  else return stop
termination_by chars.length - stop

theorem scanBack_succ (hk : k < chars.length) :
    scanBack chars (k + 1) = if isWordChar chars[k] then scanBack chars k else .ok (k + 1) := by
  rw [scanBack, charAt_eq hk]
  rfl

theorem scanAhead_of_lt (hk : k < chars.length) :
    scanAhead chars k = if isWordChar chars[k] then scanAhead chars (k + 1) else .ok k := by
  rw [scanAhead, dif_pos hk, charAt_eq hk]
  rfl

theorem scanAhead_length (chars : List Char) : scanAhead chars chars.length = .ok chars.length := by
  rw [scanAhead, dif_neg (lt_irrefl _)]
  rfl

/-- The characters from number `a` up to number `b` are word characters. -/
def IsWordRun (chars : List Char) (a b : ℕ) : Prop :=
  ∀ i, a ≤ i → i < b → chars[i]?.any isWordChar = true

theorem isWordRun_self (chars : List Char) (k : ℕ) : IsWordRun chars k k := by
  intro i hki hik
  omega

theorem isWordRun_single (h : chars[k]?.any isWordChar = true) : IsWordRun chars k (k + 1) := by
  intro i hki hik
  obtain rfl : i = k := by omega
  exact h

theorem IsWordRun.append (h : IsWordRun chars a k) (h' : IsWordRun chars k b) :
    IsWordRun chars a b := by
  intro i hai hib
  rcases Nat.lt_or_ge i k with hik | hki
  · exact h i hai hik
  · exact h' i hki hib

theorem getElem?_any (hk : k < chars.length) :
    chars[k]?.any isWordChar = isWordChar chars[k] := by
  rw [List.getElem?_eq_getElem hk, Option.any_some]

/-- From a place of the line, the scan back reads characters of the line only, and it ends where
the word characters before the place begin. -/
theorem exists_scanBack (hk : k ≤ chars.length) :
    ∃ a, scanBack chars k = .ok a ∧ a ≤ k ∧ IsWordRun chars a k ∧
      (0 < a → chars[a - 1]?.any isWordChar = false) := by
  induction k with
  | zero =>
    refine ⟨0, rfl, le_rfl, isWordRun_self chars 0, ?_⟩
    intro hpos
    omega
  | succ k ih =>
    -- The character that is read is the one right before the place, so it is one of the line.
    have hlt : k < chars.length := by omega
    rw [scanBack_succ hlt]
    by_cases hword : isWordChar chars[k] = true
    · obtain ⟨a, hscan, hak, hrun, hleft⟩ := ih hlt.le
      have hlast : IsWordRun chars k (k + 1) := isWordRun_single (by rw [getElem?_any hlt, hword])
      refine ⟨a, ?_, by omega, hrun.append hlast, hleft⟩
      rw [if_pos hword, hscan]
    · refine ⟨k + 1, if_neg hword, le_rfl, isWordRun_self chars (k + 1), ?_⟩
      intro _
      rw [Nat.add_sub_cancel, getElem?_any hlt]
      simpa using hword

/-- From a place of the line, the scan ahead reads characters of the line only, and it ends where
the word characters behind the place do. -/
theorem exists_scanAhead (hk : k ≤ chars.length) :
    ∃ b, scanAhead chars k = .ok b ∧ k ≤ b ∧ b ≤ chars.length ∧ IsWordRun chars k b ∧
      chars[b]?.any isWordChar = false := by
  -- The induction is on the number of characters up to the end of the line.
  induction hrest : chars.length - k generalizing k with
  | zero =>
    obtain rfl : k = chars.length := by omega
    refine ⟨chars.length, scanAhead_length chars, le_rfl, le_rfl, isWordRun_self chars _, ?_⟩
    rw [List.getElem?_eq_none le_rfl, Option.any_none]
  | succ n ih =>
    have hlt : k < chars.length := by omega
    rw [scanAhead_of_lt hlt]
    by_cases hword : isWordChar chars[k] = true
    · obtain ⟨b, hscan, hkb, hb, hrun, hright⟩ := ih (k := k + 1) (by omega) (by omega)
      have hfirst : IsWordRun chars k (k + 1) := isWordRun_single (by rw [getElem?_any hlt, hword])
      refine ⟨b, ?_, by omega, hb, hfirst.append hrun, hright⟩
      rw [if_pos hword, hscan]
    · refine ⟨k, if_neg hword, le_rfl, hk, isWordRun_self chars k, ?_⟩
      rw [getElem?_any hlt]
      simpa using hword

/-- The word characters that end at a place are those that the scan back passes. -/
theorem wordEnd_take (hak : a ≤ k) (hk : k ≤ chars.length) (hrun : IsWordRun chars a k)
    (hleft : 0 < a → chars[a - 1]?.any isWordChar = false) :
    wordEnd (chars.take k) = (chars.take k).drop a := by
  rw [← take_append_span chars hak, wordEnd_append, take_append_span chars hak]
  · exact forall_mem_span hrun
  · rw [← Bool.not_eq_true, getLast?_take_any (hak.trans hk)]
    rintro ⟨hpos, hbefore⟩
    rw [hleft hpos] at hbefore
    cases hbefore

end Text

/-! ### Answers of the scans -/

namespace Document

open Text

variable {d : Document} {p : Position} {chars : List Char} {k : ℕ}

/-- The word around a place of a line, with its columns. -/
def scanAround (n : ℕ) (chars : List Char) (place : ℕ) : Except ScanFault (Option Word) := do
  let start ← scanBack chars place
  let stop ← scanAhead chars place
  if start < stop then
    let text ← stretch chars start stop
    let first ← count32 0 (← stretch chars 0 start)
    let last ← count32 0 (← stretch chars 0 stop)
    return some ⟨String.ofList text, ⟨n, first⟩, ⟨n, last⟩⟩
  else return none

/-- The word that touches a position, found by scans. -/
def scanWord (d : Document) (p : Position) : Except ScanFault (Option Word) :=
  match d.line? p.line with
  | none => return none
  | some chars =>
    match seek p.character 0 0 chars with
    | none => return none
    | some place => scanAround p.line chars place

/-- The part of a word that ends at a position, found by a scan. -/
def scanPrefix (d : Document) (p : Position) : Except ScanFault String :=
  match d.line? p.line with
  | none => return ""
  | some chars => do
    let stop := (seek p.character 0 0 chars).getD chars.length
    let start ← scanBack chars stop
    return String.ofList (← stretch chars start stop)

/-- What the scans pass around the place of a column is the word there. -/
theorem wordAt_eq_spanWord {n column a b : ℕ} (hline : d.line? n = some chars)
    (hcolumn : IsColumn chars column k) (hak : a ≤ k) (hkb : k ≤ b) (hb : b ≤ chars.length)
    (hrun : IsWordRun chars a b) (hleft : 0 < a → chars[a - 1]?.any isWordChar = false)
    (hright : chars[b]?.any isWordChar = false) :
    d.wordAt ⟨n, column⟩ = if a < b then some (spanWord n chars a b) else none := by
  split
  case isTrue hab =>
    exact (wordAt_eq_some_iff_span hline hcolumn).mpr
      ⟨a, b, ⟨hab, hb, hrun, hleft, hright⟩, hak, hkb, rfl⟩
  case isFalse hab =>
    -- Nothing was passed, so the characters on both sides of the place are no word characters.
    obtain rfl : a = k := by omega
    obtain rfl : b = a := by omega
    cases hword : d.wordAt ⟨n, column⟩ with
    | none => rfl
    | some w =>
      obtain ⟨a', b', hspan, hak', hkb', -⟩ := (wordAt_eq_some_iff_span hline hcolumn).mp hword
      have hlt := hspan.lt
      rcases Nat.lt_or_eq_of_le hkb' with hbehind | hend
      · have hchar := hspan.all b hak' hbehind
        rw [hright] at hchar
        cases hchar
      · have hchar := hspan.all (b - 1) (by omega) (by omega)
        rw [hleft (by omega)] at hchar
        cases hchar

/-- Around the place that a column stands for, the word at the column is found. -/
theorem scanAround_eq {n column : ℕ} (hline : d.line? n = some chars)
    (hcolumn : IsColumn chars column k) (hwidth : units16 chars < UInt32.size) :
    scanAround n chars k = .ok (d.wordAt ⟨n, column⟩) := by
  obtain ⟨a, hback, hak, hbefore, hleft⟩ := exists_scanBack hcolumn.le_length
  obtain ⟨b, hahead, hkb, hb, hbehind, hright⟩ := exists_scanAhead hcolumn.le_length
  rw [wordAt_eq_spanWord hline hcolumn hak hkb hb (hbefore.append hbehind) hleft hright,
    scanAround, hback, hahead]
  show (if a < b then _ else Except.ok none) = _
  split
  case isTrue hab =>
    rw [stretch_eq hab.le hb, stretch_eq (Nat.zero_le a) (hab.le.trans hb),
      stretch_eq (Nat.zero_le b) hb]
    show (count32 0 (chars.take a) >>= fun first => count32 0 (chars.take b) >>= _) = _
    rw [count32_take hwidth, count32_take hwidth]
    rfl
  case isFalse hab => rfl

/-- Scans for a word read nothing beyond its line and overflow in no line whose columns fit. -/
theorem scanWord_eq (hwidth : ∀ chars, d.line? p.line = some chars → units16 chars < UInt32.size) :
    d.scanWord p = .ok (d.wordAt p) := by
  obtain ⟨n, column⟩ := p
  rw [scanWord]
  cases hline : d.line? n with
  | none =>
    rw [wordAt, hline]
    rfl
  | some chars =>
    simp only [seek_eq_charIndex]
    cases hplace : charIndex chars column with
    | none =>
      rw [wordAt, hline, Option.bind_eq_bind, Option.bind_some, hplace]
      rfl
    | some k => exact scanAround_eq hline (charIndex_eq_some_iff.mp hplace) (hwidth chars hline)

/-- The scan for what is completed reads nothing beyond its line. -/
theorem scanPrefix_eq (d : Document) (p : Position) : d.scanPrefix p = .ok (d.prefixAt p) := by
  rw [scanPrefix, prefixAt]
  cases d.line? p.line with
  | none => rfl
  | some chars =>
    simp only [seek_eq_charIndex]
    have hk : (charIndex chars p.character).getD chars.length ≤ chars.length := by
      cases hplace : charIndex chars p.character with
      | none => exact le_rfl
      | some k => exact (charIndex_eq_some_iff.mp hplace).le_length
    generalize (charIndex chars p.character).getD chars.length = k at hk ⊢
    obtain ⟨a, hback, hak, hrun, hleft⟩ := exists_scanBack hk
    rw [hback]
    show (stretch chars a k >>= fun text => Except.ok (String.ofList text)) = _
    rw [stretch_eq hak hk, wordEnd_take hak hk hrun hleft]
    rfl

/-! ### The columns of a line -/

/-- **Columns and characters determine each other, and no scan leaves its line.**  For a line whose
length in UTF-16 units fits 32 bits: nothing is found exactly for the columns beyond its end.
For any other column it is the character that begins at the column or before it and ends behind it,
or the end of the line for the column there.  So a character is not behind what is found exactly if
it does not begin behind the column, what is found at the column of a character is that character,
and what is found for a column is found no later than for a later one.  A seek with a running count
finds the same, the columns of all characters are counted without overflow, and the scans for the
word at a position of the line and for what is completed there never leave the line. -/
theorem charIndex_galois (chars : List Char) (hwidth : units16 chars < UInt32.size) :
    (∀ column, charIndex chars column = none ↔ units16 chars < column) ∧
    (∀ column k, charIndex chars column = some k ↔
      k ≤ chars.length ∧ units16 (chars.take k) ≤ column ∧
        (k < chars.length → column < units16 (chars.take (k + 1))) ∧
        (k = chars.length → units16 (chars.take k) = column)) ∧
    (∀ column j k, charIndex chars column = some k → j ≤ chars.length →
      (j ≤ k ↔ units16 (chars.take j) ≤ column)) ∧
    (∀ k ≤ chars.length, charIndex chars (units16 (chars.take k)) = some k) ∧
    (∀ column column' k', column ≤ column' → charIndex chars column' = some k' →
      ∃ k ≤ k', charIndex chars column = some k) ∧
    (∀ column, seek column 0 0 chars = charIndex chars column) ∧
    (∀ k, count32 0 (chars.take k) = .ok (units16 (chars.take k))) ∧
    ∀ (d : Document) (p : Position), d.line? p.line = some chars →
      d.scanWord p = .ok (d.wordAt p) ∧ d.scanPrefix p = .ok (d.prefixAt p) := by
  refine ⟨?_, ?_, ?_, ?_, ?_, ?_, ?_, ?_⟩
  · intro column
    exact charIndex_eq_none_iff
  · intro column k
    rw [charIndex_eq_some_iff, isColumn_iff]
  · intro column j k hfound hj
    exact (charIndex_eq_some_iff.mp hfound).le_iff hj
  · intro k hk
    exact charIndex_eq_some_iff.mpr (isColumn_take hk)
  · intro column column' k' hle hfound
    have hcolumn' := charIndex_eq_some_iff.mp hfound
    obtain ⟨k, hcolumn⟩ := exists_isColumn (hle.trans hcolumn'.le_units16)
    exact ⟨k, hcolumn.mono hcolumn' hle, charIndex_eq_some_iff.mpr hcolumn⟩
  · exact seek_eq_charIndex chars
  · exact count32_take hwidth
  · intro d p hline
    refine ⟨scanWord_eq ?_, scanPrefix_eq d p⟩
    intro chars' hline'
    obtain rfl := Option.some.inj (hline.symm.trans hline')
    exact hwidth

/-- The second line begins and ends with a character of two units. -/
def paired : Document := ⟨"π\n𝔽x = 😀"⟩

theorem charIndex_galois_paired :
    units16 "𝔽x = 😀".toList < UInt32.size ∧
      charIndex "𝔽x = 😀".toList 7 = some 5 ∧ charIndex "𝔽x = 😀".toList 9 = none ∧
      (charIndex "𝔽x = 😀".toList 3 = some 2 ∧ ∃ k ≤ 2, charIndex "𝔽x = 😀".toList 1 = some k) ∧
      paired.line? 1 = some "𝔽x = 😀".toList ∧
      paired.scanWord ⟨1, 1⟩ = .ok (some ⟨"𝔽x", ⟨1, 0⟩, ⟨1, 3⟩⟩) ∧
      paired.scanPrefix ⟨1, 9⟩ = .ok "" := by
  have hwidth : units16 "𝔽x = 😀".toList < UInt32.size := by decide +kernel
  have hline : paired.line? 1 = some "𝔽x = 😀".toList := by decide +kernel
  have hword : paired.wordAt ⟨1, 1⟩ = some ⟨"𝔽x", ⟨1, 0⟩, ⟨1, 3⟩⟩ := by decide +kernel
  have hcompleted : paired.prefixAt ⟨1, 9⟩ = "" := by decide +kernel
  obtain ⟨hnone, hsome, -, hround, hmono, -, -, hscans⟩ :=
    charIndex_galois "𝔽x = 😀".toList hwidth
  have hsecond : charIndex "𝔽x = 😀".toList 3 = some 2 := hround 2 (by decide)
  refine ⟨hwidth, ?_, (hnone 9).mpr (by decide +kernel), ⟨hsecond, ?_⟩, hline, ?_, ?_⟩
  · -- The column lies in the second half of a surrogate pair.
    exact (hsome 7 5).mpr (by decide +kernel)
  · exact hmono 1 3 2 (by decide) hsecond
  · rw [(hscans paired ⟨1, 1⟩ hline).1, hword]
  · rw [(hscans paired ⟨1, 9⟩ hline).2, hcompleted]

end Document

end SageEditor

/-
Columns of a line and the characters they stand for.

* `encode16` — a text in UTF-16 units; `length_encode16` says that columns count these units, and
  `encode16_injective` that a text can be read back from them;
* `IsColumn` — the character that holds the unit of a column, or the end of the line;
* `IsColumn.le_iff` — a character is not behind the one of a column exactly if it does not begin
  behind that column, so that columns and characters are adjoint to each other;
* `charIndex_eq_some_iff` — the place found for a column is the character that holds its unit;
* `slice_encode16` — the units between the columns of two characters are those of the text between.

Design notes: a character beyond the basic plane has two units, a leading and a trailing
surrogate.  No character begins with a trailing one, which is why a line can be cut at the column
of a character and nowhere else.
-/
import Mathlib.Data.List.DropRight
import SageEditor.Document

namespace SageEditor.Text

/-! ### UTF-16 units -/

theorem charUnits16_pos (c : Char) : 0 < charUnits16 c := by
  rw [charUnits16]
  split <;> decide

theorem units16_append (cs ds : List Char) : units16 (cs ++ ds) = units16 cs + units16 ds := by
  induction cs with
  | nil => simp [units16]
  | cons c cs ih => rw [List.cons_append, units16, units16, ih, Nat.add_assoc]

/-- The UTF-16 units of one character: a surrogate pair beyond the basic plane. -/
def encodeChar16 (c : Char) : List UInt16 :=
  if c.toNat < 0x10000 then [.ofNat c.toNat]
  else
    [.ofNat (0xd800 + (c.toNat - 0x10000) / 0x400), .ofNat (0xdc00 + (c.toNat - 0x10000) % 0x400)]

/-- The UTF-16 units of a text. -/
def encode16 (cs : List Char) : List UInt16 :=
  cs.flatMap encodeChar16

/-- The second half of a surrogate pair. -/
def IsTrailing (unit : UInt16) : Prop :=
  0xdc00 ≤ unit.toNat ∧ unit.toNat < 0xe000

theorem encode16_cons (c : Char) (cs : List Char) :
    encode16 (c :: cs) = encodeChar16 c ++ encode16 cs :=
  List.flatMap_cons

theorem encode16_append (cs ds : List Char) : encode16 (cs ++ ds) = encode16 cs ++ encode16 ds :=
  List.flatMap_append

theorem length_encode16 (cs : List Char) : (encode16 cs).length = units16 cs := by
  induction cs with
  | nil => rfl
  | cons c cs ih =>
    have hchar : (encodeChar16 c).length = charUnits16 c := by
      rw [encodeChar16, charUnits16]
      split <;> rfl
    rw [encode16_cons, List.length_append, hchar, ih, units16]

/-- Code points are below `0x110000` and no surrogates. -/
theorem toNat_bounds (c : Char) : c.toNat < 0xd800 ∨ 0xdfff < c.toNat ∧ c.toNat < 0x110000 :=
  c.valid

/-- The first unit of a character, and how a character is told from it. -/
theorem encodeChar16_cases (c : Char) :
    (∃ unit, encodeChar16 c = [unit] ∧ unit.toNat = c.toNat ∧ c.toNat < 0x10000) ∨
      ∃ lead trail, encodeChar16 c = [lead, trail] ∧
        lead.toNat = 0xd800 + (c.toNat - 0x10000) / 0x400 ∧
        trail.toNat = 0xdc00 + (c.toNat - 0x10000) % 0x400 ∧ 0x10000 ≤ c.toNat := by
  have hbounds := toNat_bounds c
  by_cases hplane : c.toNat < 0x10000
  · refine .inl ⟨.ofNat c.toNat, ?_, ?_, hplane⟩
    · rw [encodeChar16, if_pos hplane]
    · exact UInt16.toNat_ofNat_of_lt' (by simpa using hplane)
  · refine .inr ⟨_, _, by rw [encodeChar16, if_neg hplane], ?_, ?_, by omega⟩
    · exact UInt16.toNat_ofNat_of_lt' (by simp only [UInt16.size]; omega)
    · exact UInt16.toNat_ofNat_of_lt' (by simp only [UInt16.size]; omega)

theorem not_isTrailing_of_head? {cs : List Char} {unit : UInt16}
    (h : (encode16 cs).head? = some unit) : ¬ IsTrailing unit := by
  cases cs with
  | nil => cases h
  | cons c cs =>
    rw [encode16_cons] at h
    have hbounds := toNat_bounds c
    rintro ⟨hlow, hhigh⟩
    obtain ⟨u, hu, hval, -⟩ | ⟨u, v, hu, hval, -, -⟩ := encodeChar16_cases c
    · rw [hu] at h
      obtain rfl := Option.some.inj h
      omega
    · rw [hu] at h
      obtain rfl := Option.some.inj h
      omega

/-- The first unit tells whether there is a second one, so that characters end by themselves. -/
theorem eq_of_encodeChar16_append {c d : Char} {us vs : List UInt16}
    (h : encodeChar16 c ++ us = encodeChar16 d ++ vs) : c = d ∧ us = vs := by
  have hc := toNat_bounds c
  have hd := toNat_bounds d
  obtain ⟨u, hu, hcval, -⟩ | ⟨u, u', hu, hlead, htrail, hcplane⟩ := encodeChar16_cases c <;>
    obtain ⟨v, hv, hdval, -⟩ | ⟨v, v', hv, hlead', htrail', hdplane⟩ := encodeChar16_cases d <;>
    rw [hu, hv] at h <;>
    simp only [List.cons_append, List.nil_append, List.cons.injEq] at h
  · obtain ⟨rfl, hrest⟩ := h
    exact ⟨Char.toNat_inj.mp (by omega), hrest⟩
  · obtain ⟨rfl, -⟩ := h
    omega
  · obtain ⟨rfl, -⟩ := h
    omega
  · obtain ⟨rfl, rfl, hrest⟩ := h
    exact ⟨Char.toNat_inj.mp (by omega), hrest⟩

theorem eq_nil_of_encode16 {cs : List Char} (h : encode16 cs = []) : cs = [] := by
  cases cs with
  | nil => rfl
  | cons c cs =>
    have hunits := congrArg List.length h
    have hpos := charUnits16_pos c
    simp only [length_encode16, units16, List.length_nil] at hunits
    omega

theorem encode16_injective : Function.Injective encode16 := by
  intro cs
  induction cs with
  | nil => exact fun ds h => (eq_nil_of_encode16 h.symm).symm
  | cons c cs ih =>
    intro ds h
    cases ds with
    | nil => exact eq_nil_of_encode16 h
    | cons d ds =>
      rw [encode16_cons, encode16_cons] at h
      obtain ⟨rfl, hrest⟩ := eq_of_encodeChar16_append h
      rw [ih hrest]

/-! ### Places of a line -/

/-- What stands before the end of a span. -/
theorem take_append_span (line : List Char) {i j : ℕ} (hij : i ≤ j) :
    line.take i ++ (line.take j).drop i = line.take j := by
  have hbefore : line.take i = (line.take j).take i := by
    rw [List.take_take, min_eq_left hij]
  rw [hbefore, List.take_append_drop]

theorem units16_take_add_drop (line : List Char) (k : ℕ) :
    units16 (line.take k) + units16 (line.drop k) = units16 line := by
  rw [← units16_append, List.take_append_drop]

theorem units16_take_le {line : List Char} {i j : ℕ} (hij : i ≤ j) :
    units16 (line.take i) ≤ units16 (line.take j) := by
  rw [← take_append_span line hij, units16_append]
  exact Nat.le_add_right _ _

theorem charIndex_cons {c : Char} {rest : List Char} {column : ℕ} (h : 0 < column) :
    charIndex (c :: rest) column =
      if column < charUnits16 c then some 0
      else (charIndex rest (column - charUnits16 c)).map (· + 1) := by
  rw [charIndex]
  exact h.ne'

/-- What a column stands for: the number of the character that holds its unit, or the number of
all characters at the end of the line. -/
inductive IsColumn (line : List Char) (column k : ℕ) : Prop where
  | inside (hk : k < line.length) (first : units16 (line.take k) ≤ column)
      (last : column < units16 (line.take (k + 1)))
  | stop (hk : k = line.length) (hcolumn : column = units16 line)

namespace IsColumn

variable {line : List Char} {column k : ℕ}

theorem le_length (h : IsColumn line column k) : k ≤ line.length := by
  cases h with
  | inside hk => exact hk.le
  | stop hk => exact hk.le

theorem units16_le (h : IsColumn line column k) : units16 (line.take k) ≤ column := by
  cases h with
  | inside _ first => exact first
  | stop hk hcolumn => rw [hk, List.take_length, hcolumn]

theorem le_units16 (h : IsColumn line column k) : column ≤ units16 line := by
  cases h with
  | inside hk _ last =>
    have hsum := units16_take_add_drop line (k + 1)
    omega
  | stop _ hcolumn => exact hcolumn.le

theorem zero_iff {c : Char} {rest : List Char} :
    IsColumn (c :: rest) column 0 ↔ column < charUnits16 c := by
  constructor
  · intro h
    cases h with
    | inside _ _ last => simpa [units16] using last
    | stop hk => cases hk
  · intro h
    exact .inside (Nat.succ_pos _) (Nat.zero_le _) (by simpa [units16] using h)

theorem succ_iff {c : Char} {rest : List Char} (hbehind : charUnits16 c ≤ column) :
    IsColumn (c :: rest) column (k + 1) ↔ IsColumn rest (column - charUnits16 c) k := by
  constructor
  · intro h
    cases h with
    | inside hk first last =>
      simp only [List.length_cons, List.take_succ_cons, units16] at hk first last
      exact .inside (by omega) (by omega) (by omega)
    | stop hk hcolumn =>
      simp only [List.length_cons, units16] at hk hcolumn
      exact .stop (by omega) (by omega)
  · intro h
    cases h with
    | inside hk first last =>
      refine .inside ?_ ?_ ?_ <;>
        simp only [List.length_cons, List.take_succ_cons, units16] <;> omega
    | stop hk hcolumn =>
      refine .stop ?_ ?_ <;> simp only [List.length_cons, units16] <;> omega

/-- A character is not behind the one of a column exactly if it does not begin behind it. -/
theorem le_iff (h : IsColumn line column k) {j : ℕ} (hj : j ≤ line.length) :
    j ≤ k ↔ units16 (line.take j) ≤ column := by
  constructor
  · intro hjk
    exact (units16_take_le hjk).trans h.units16_le
  · intro hbegins
    by_contra hkj
    cases h with
    | inside _ _ last =>
      -- Whatever follows the character of the column begins behind the column.
      have hnext : units16 (line.take (k + 1)) ≤ units16 (line.take j) :=
        units16_take_le (by omega)
      omega
    | stop hk _ => omega

/-- Later columns do not stand for earlier characters. -/
theorem mono {column' k' : ℕ} (h : IsColumn line column k) (h' : IsColumn line column' k')
    (hle : column ≤ column') : k ≤ k' :=
  (h'.le_iff h.le_length).mpr (h.units16_le.trans hle)

end IsColumn

theorem isColumn_iff {line : List Char} {column k : ℕ} :
    IsColumn line column k ↔ k ≤ line.length ∧ units16 (line.take k) ≤ column ∧
      (k < line.length → column < units16 (line.take (k + 1))) ∧
      (k = line.length → units16 (line.take k) = column) := by
  constructor
  · intro h
    refine ⟨h.le_length, h.units16_le, ?_, ?_⟩
    · intro hk
      cases h with
      | inside _ _ last => exact last
      | stop hend _ => omega
    · intro hend
      cases h with
      | inside hk _ _ => omega
      | stop _ hcolumn => rw [hend, List.take_length, hcolumn]
  · rintro ⟨hk, hfirst, hlast, hend⟩
    rcases Nat.lt_or_eq_of_le hk with hlt | heq
    · exact .inside hlt hfirst (hlast hlt)
    · have hcolumn := hend heq
      rw [heq, List.take_length] at hcolumn
      exact .stop heq hcolumn.symm

/-- The place found for a column is what the column stands for. -/
theorem charIndex_eq_some_iff {line : List Char} {column k : ℕ} :
    charIndex line column = some k ↔ IsColumn line column k := by
  induction line generalizing column k with
  | nil =>
    cases column with
    | zero =>
      rw [charIndex, Option.some.injEq, eq_comm]
      exact ⟨fun hk => .stop hk rfl, fun h => Nat.le_zero.mp h.le_length⟩
    | succ column =>
      rw [charIndex]
      refine ⟨nofun, fun h => absurd h.le_units16 (by simp [units16])⟩
  | cons c rest ih =>
    by_cases hinside : column < charUnits16 c
    · -- The column lies in the first character.
      have hfound : charIndex (c :: rest) column = some 0 := by
        cases column with
        | zero => rw [charIndex]
        | succ column => rw [charIndex_cons (Nat.succ_pos _), if_pos hinside]
      rw [hfound, Option.some.injEq]
      cases k with
      | zero => exact iff_of_true rfl (IsColumn.zero_iff.mpr hinside)
      | succ k =>
        refine iff_of_false nofun fun h => ?_
        have hle := h.units16_le
        simp only [List.take_succ_cons, units16] at hle
        omega
    · have hpos := charUnits16_pos c
      rw [charIndex_cons (by omega), if_neg hinside, Option.map_eq_some_iff]
      cases k with
      | zero =>
        rw [IsColumn.zero_iff]
        simp [hinside]
      | succ k =>
        rw [IsColumn.succ_iff (by omega), ← ih]
        simp

theorem IsColumn.unique {line : List Char} {column k k' : ℕ} (h : IsColumn line column k)
    (h' : IsColumn line column k') : k = k' :=
  Option.some.inj ((charIndex_eq_some_iff.mpr h).symm.trans (charIndex_eq_some_iff.mpr h'))

/-- The column behind some characters stands for the place behind them. -/
theorem isColumn_append (cs ds : List Char) : IsColumn (cs ++ ds) (units16 cs) cs.length := by
  cases ds with
  | nil => exact .stop (by simp) (by simp)
  | cons d ds =>
    have hpos := charUnits16_pos d
    have hnext : (cs ++ d :: ds).take (cs.length + 1) = cs ++ [d] := by
      rw [List.take_length_add_append, List.take_succ_cons, List.take_zero]
    refine .inside ?_ ?_ ?_
    · simp
    · rw [List.take_left]
    · rw [hnext, units16_append, units16, units16]
      omega

/-- The column at which a character begins stands for that character. -/
theorem isColumn_take {line : List Char} {k : ℕ} (hk : k ≤ line.length) :
    IsColumn line (units16 (line.take k)) k := by
  have h := isColumn_append (line.take k) (line.drop k)
  rwa [List.take_append_drop, List.length_take_of_le hk] at h

/-- Columns between those of two characters stand for characters between them. -/
theorem IsColumn.between {line : List Char} {column k a b : ℕ} (h : IsColumn line column k)
    (hab : a ≤ b) (hb : b ≤ line.length) (hfirst : units16 (line.take a) ≤ column)
    (hlast : column ≤ units16 (line.take b)) : a ≤ k ∧ k ≤ b :=
  ⟨(h.le_iff (hab.trans hb)).mpr hfirst, h.mono (isColumn_take hb) hlast⟩

/-- Every column of a line stands for something. -/
theorem exists_isColumn {line : List Char} {column : ℕ} (h : column ≤ units16 line) :
    ∃ k, IsColumn line column k := by
  induction line generalizing column with
  | nil => exact ⟨0, .stop rfl (Nat.le_zero.mp h)⟩
  | cons c rest ih =>
    by_cases hinside : column < charUnits16 c
    · exact ⟨0, IsColumn.zero_iff.mpr hinside⟩
    · have hrest : column - charUnits16 c ≤ units16 rest := by
        rw [units16] at h
        omega
      obtain ⟨k, hk⟩ := ih hrest
      exact ⟨k + 1, (IsColumn.succ_iff (by omega)).mpr hk⟩

/-- Nothing is found beyond the end of a line, and only there. -/
theorem charIndex_eq_none_iff {line : List Char} {column : ℕ} :
    charIndex line column = none ↔ units16 line < column := by
  constructor
  · intro h
    by_contra hle
    obtain ⟨k, hk⟩ := exists_isColumn (not_lt.mp hle)
    rw [charIndex_eq_some_iff.mpr hk] at h
    cases h
  · intro h
    cases hfound : charIndex line column with
    | none => rfl
    | some k =>
      have hle := (charIndex_eq_some_iff.mp hfound).le_units16
      omega

/-! ### Units between two columns -/

/-- The units of a line between the columns of two of its characters. -/
theorem slice_encode16 (line : List Char) {a b : ℕ} (hab : a ≤ b) :
    ((encode16 line).take (units16 (line.take b))).drop (units16 (line.take a)) =
      encode16 ((line.take b).drop a) := by
  have hfront : encode16 line = encode16 (line.take b) ++ encode16 (line.drop b) := by
    rw [← encode16_append, List.take_append_drop]
  have hspan : encode16 (line.take b) =
      encode16 (line.take a) ++ encode16 ((line.take b).drop a) := by
    rw [← encode16_append, take_append_span line hab]
  rw [hfront, List.take_left' (length_encode16 _), hspan, List.drop_left' (length_encode16 _)]

/-- No pair of surrogates is cut at the column of a character. -/
theorem not_isTrailing_of_getElem? {line : List Char} {k : ℕ} {unit : UInt16}
    (h : (encode16 line)[units16 (line.take k)]? = some unit) : ¬ IsTrailing unit := by
  have hhead : (encode16 (line.drop k)).head? = some unit := by
    rw [← List.take_append_drop k line, encode16_append, List.take_append_drop,
      List.getElem?_append_right (by rw [length_encode16]), length_encode16, Nat.sub_self] at h
    rw [List.head?_eq_getElem?, h]
  exact not_isTrailing_of_head? hhead

end SageEditor.Text

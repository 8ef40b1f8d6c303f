/-
Texts as bytes and back.

* `lead_two`, `lead_three`, `lead_four` — what the first byte of a longer character asks of those
  behind it;
* `decodeFrom_encodeChar` — the bytes of a character are read as that character;
* `decode?_encode`, `decodeLossy_encode` — the bytes of a text are read as that text.

Design notes: one lemma says what each kind of byte does to the automaton, with its value as a
number, so that the lengths of a character differ only in the arithmetic.
-/
import Mathlib.Data.Nat.Notation
import SageEditor.Text.Utf8

namespace SageEditor.Text.Utf8

/-! ### Single bytes -/

section Bytes

variable {b value low high : ℕ} {rest : Bytes}

theorem toNat_ofNat (hb : b < 256) : (UInt8.ofNat b).toNat = b := by
  rw [UInt8.toNat_ofNat']
  exact Nat.mod_eq_of_lt hb

/-- The last byte of a character. -/
theorem decodeFrom_last (hb : b < 256) (hrange : low ≤ b ∧ b ≤ high) :
    decodeFrom (.within 1 value low high) (UInt8.ofNat b :: rest) =
      some (Char.ofNat (value * 64 + (b - 0x80))) :: decodeFrom .start rest := by
  rw [decodeFrom, toNat_ofNat hb]
  simp [feed, hrange]

/-- A byte that others follow. -/
theorem decodeFrom_more (needed : ℕ) (hb : b < 256) (hrange : low ≤ b ∧ b ≤ high) :
    decodeFrom (.within (needed + 2) value low high) (UInt8.ofNat b :: rest) =
      decodeFrom (.within (needed + 1) (value * 64 + (b - 0x80)) 0x80 0xbf) rest := by
  rw [decodeFrom, toNat_ofNat hb]
  simp [feed, hrange]

theorem decodeFrom_lead (hb : b < 256) :
    decodeFrom .start (UInt8.ofNat b :: rest) = (lead b).1 ++ decodeFrom (lead b).2 rest := by
  rw [decodeFrom, toNat_ofNat hb]
  rfl

end Bytes

/-! ### First bytes -/

section Lead

variable {v : ℕ}

theorem lead_two (hlow : 0x80 ≤ v) (hhigh : v < 0x800) :
    lead (v / 64 % 32 + 192) = ([], .within 1 (v / 64) 0x80 0xbf) := by
  have hvalue : v / 64 % 32 + 192 - 0xc0 = v / 64 := by omega
  rw [lead, if_neg (by omega), if_neg (by omega), if_pos (by omega), hvalue]

/-- The second byte of three is bounded by what the first one is. -/
theorem lead_three (hlow : 0x800 ≤ v) (hhigh : v < 0x10000) :
    lead (v / 4096 % 16 + 224) = ([], .within 2 (v / 4096)
      (if v / 4096 = 0 then 0xa0 else 0x80) (if v / 4096 = 13 then 0x9f else 0xbf)) := by
  have hfirst : (v / 4096 % 16 + 224 = 0xe0) = (v / 4096 = 0) := propext (by omega)
  have hlast : (v / 4096 % 16 + 224 = 0xed) = (v / 4096 = 13) := propext (by omega)
  have hvalue : v / 4096 % 16 + 224 - 0xe0 = v / 4096 := by omega
  rw [lead, if_neg (by omega), if_neg (by omega), if_neg (by omega), if_pos (by omega), hvalue]
  simp only [hfirst, hlast]

/-- So is the second byte of four. -/
theorem lead_four (hlow : 0x10000 ≤ v) (hhigh : v < 0x110000) :
    lead (v / 262144 % 8 + 240) = ([], .within 3 (v / 262144)
      (if v / 262144 = 0 then 0x90 else 0x80) (if v / 262144 = 4 then 0x8f else 0xbf)) := by
  have hfirst : (v / 262144 % 8 + 240 = 0xf0) = (v / 262144 = 0) := propext (by omega)
  have hlast : (v / 262144 % 8 + 240 = 0xf4) = (v / 262144 = 4) := propext (by omega)
  have hvalue : v / 262144 % 8 + 240 - 0xf0 = v / 262144 := by omega
  rw [lead, if_neg (by omega), if_neg (by omega), if_neg (by omega), if_neg (by omega),
    if_pos (by omega), hvalue]
  simp only [hfirst, hlast]

end Lead

/-! ### Characters and texts -/

/-- The bytes of a character are read as that character. -/
theorem decodeFrom_encodeChar (c : Char) (rest : Bytes) :
    decodeFrom .start (String.utf8EncodeChar c ++ rest) = some c :: decodeFrom .start rest := by
  have hvalid : c.toNat < 0xd800 ∨ 0xdfff < c.toNat ∧ c.toNat < 0x110000 := c.valid
  have hchar : Char.ofNat c.toNat = c := Char.ofNat_toNat c
  have hval : c.val.toNat = c.toNat := rfl
  rw [String.utf8EncodeChar, hval]
  generalize hv : c.toNat = v at hvalid hchar ⊢
  split
  · -- One byte.
    rw [List.cons_append, decodeFrom_lead (by omega), lead, if_pos (by omega), hchar]
    rfl
  split
  · -- Two bytes.
    have hsum : v / 64 * 64 + (v % 64 + 128 - 0x80) = v := by omega
    simp only [List.cons_append, List.nil_append]
    rw [decodeFrom_lead (by omega), lead_two (by omega) (by omega),
      decodeFrom_last (by omega) (by omega), hsum, hchar]
    rfl
  split
  · -- Three bytes, of which the second is not what a surrogate has.
    have hsum : (v / 4096 * 64 + (v / 64 % 64 + 128 - 0x80)) * 64 + (v % 64 + 128 - 0x80) = v := by
      omega
    have hrange : (if v / 4096 = 0 then 0xa0 else 0x80) ≤ v / 64 % 64 + 128 ∧
        v / 64 % 64 + 128 ≤ if v / 4096 = 13 then 0x9f else 0xbf := by
      constructor <;> split <;> omega
    simp only [List.cons_append, List.nil_append]
    rw [decodeFrom_lead (by omega), lead_three (by omega) (by omega),
      decodeFrom_more 0 (by omega) hrange, decodeFrom_last (by omega) (by omega), hsum, hchar]
    rfl
  · -- Four bytes.
    have hsum : ((v / 262144 * 64 + (v / 4096 % 64 + 128 - 0x80)) * 64 +
        (v / 64 % 64 + 128 - 0x80)) * 64 + (v % 64 + 128 - 0x80) = v := by
      omega
    have hrange : (if v / 262144 = 0 then 0x90 else 0x80) ≤ v / 4096 % 64 + 128 ∧
        v / 4096 % 64 + 128 ≤ if v / 262144 = 4 then 0x8f else 0xbf := by
      constructor <;> split <;> omega
    simp only [List.cons_append, List.nil_append]
    rw [decodeFrom_lead (by omega), lead_four (by omega) (by omega),
      decodeFrom_more 1 (by omega) hrange, decodeFrom_more 0 (by omega) (by omega),
      decodeFrom_last (by omega) (by omega), hsum, hchar]
    rfl

theorem mapM_id_map_some {α : Type} (as : List α) : (as.map some).mapM id = some as := by
  induction as with
  | nil => rfl
  | cons a as ih => simp [List.mapM_cons, ih]

theorem decodeFrom_encode (s : String) : decodeFrom .start (encode s) = s.toList.map some := by
  rw [encode]
  induction s.toList with
  | nil => rfl
  | cons c cs ih => rw [List.flatMap_cons, decodeFrom_encodeChar, ih, List.map_cons]

/-- The bytes of a text are read as that text. -/
theorem decode?_encode (s : String) : decode? (encode s) = some s := by
  rw [decode?, decodeFrom_encode, mapM_id_map_some]
  simp

theorem decodeLossy_encode (s : String) : decodeLossy (encode s) = s := by
  rw [decodeLossy, decodeFrom_encode, List.map_map]
  simp [Function.comp_def]

end SageEditor.Text.Utf8

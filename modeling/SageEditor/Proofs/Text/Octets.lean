/-
Bytes of texts as characters.

* `Octets.ofBytes_injective` — the bytes are known from their characters;
* `Octets.IsWhole` — characters that are the bytes of a text;
* `Octets.IsWhole.of_append` — such characters can be parted before an ASCII character.

Design notes: a character is one byte below 128 or some bytes from 128 on, which is all that is
needed of UTF-8 to cut its texts at ASCII characters.
-/
import Mathlib.Data.List.Basic
import SageEditor.Proofs.Text.Utf8
import SageEditor.Text.Octets

namespace SageEditor.Text.Octets

variable {cs ds : List Char} {a : Char}

@[simp] theorem ofBytes_append (bytes more : Bytes) :
    ofBytes (bytes ++ more) = ofBytes bytes ++ ofBytes more :=
  List.map_append

@[simp] theorem ofString_append (s t : String) : ofString (s ++ t) = ofString s ++ ofString t := by
  rw [ofString, ofString, ofString, ← ofBytes_append]
  simp [Utf8.encode]

theorem toNat_ofByte (b : UInt8) : (Char.ofNat b.toNat).toNat = b.toNat := by
  have hb := b.toNat_lt
  rw [Char.ofNat, dif_pos (.inl (by omega))]
  rfl

theorem ofBytes_injective : Function.Injective ofBytes := by
  refine List.map_injective_iff.mpr fun b b' h => ?_
  have hnat := congrArg Char.toNat h
  rw [toNat_ofByte, toNat_ofByte] at hnat
  exact UInt8.toNat_inj.mp hnat

/-- Characters that are the bytes of a text. -/
inductive IsWhole : List Char → Prop where
  | nil : IsWhole []
  | cons (c : Char) {cs : List Char} (h : IsWhole cs) :
      IsWhole (ofBytes (String.utf8EncodeChar c) ++ cs)
theorem isWhole_iff : IsWhole cs ↔ ∃ s, cs = ofString s := by
  constructor
  · intro h
    induction h with
    | nil => exact ⟨"", rfl⟩
    | cons c _ ih =>
      obtain ⟨s, rfl⟩ := ih
      exact ⟨String.ofList (c :: s.toList), by simp [ofString, Utf8.encode]⟩
  · rintro ⟨s, rfl⟩
    rw [ofString, Utf8.encode]
    induction s.toList with
    | nil => exact .nil
    | cons c cs ih =>
      rw [List.flatMap_cons, ofBytes_append]
      exact .cons c ih

/-- The bytes of a character: a single one if it is ASCII. -/
theorem ofBytes_utf8EncodeChar (c : Char) :
    (∃ a, ofBytes (String.utf8EncodeChar c) = [a]) ∨
      ∀ a ∈ ofBytes (String.utf8EncodeChar c), 128 ≤ a.toNat := by
  have hbyte : ∀ {n : ℕ}, 128 ≤ n → n < 256 → 128 ≤ (Char.ofNat (UInt8.ofNat n).toNat).toNat := by
    intro n hn hlt
    rw [toNat_ofByte, Utf8.toNat_ofNat hlt]
    exact hn
  have hvalid : c.toNat < 0xd800 ∨ 0xdfff < c.toNat ∧ c.toNat < 0x110000 := c.valid
  have hval : c.val.toNat = c.toNat := rfl
  rw [ofBytes, String.utf8EncodeChar, hval]
  split
  · exact .inl ⟨_, rfl⟩
  refine .inr ?_
  split
  · simp only [List.map_cons, List.map_nil, List.forall_mem_cons]
    exact ⟨hbyte (by omega) (by omega), hbyte (by omega) (by omega), by simp⟩
  split
  · simp only [List.map_cons, List.map_nil, List.forall_mem_cons]
    exact ⟨hbyte (by omega) (by omega), hbyte (by omega) (by omega), hbyte (by omega) (by omega),
      by simp⟩
  · simp only [List.map_cons, List.map_nil, List.forall_mem_cons]
    exact ⟨hbyte (by omega) (by omega), hbyte (by omega) (by omega), hbyte (by omega) (by omega),
      hbyte (by omega) (by omega), by simp⟩

theorem ofBytes_utf8EncodeChar_ne_nil (c : Char) : ofBytes (String.utf8EncodeChar c) ≠ [] := by
  have hsize := c.utf8Size_pos
  refine List.ne_nil_of_length_pos ?_
  simpa [ofBytes] using hsize

theorem IsWhole.of_cons (h : IsWhole (a :: cs)) (ha : a.toNat < 128) : IsWhole cs := by
  generalize has : a :: cs = as at h
  cases h with
  | nil => cases has
  | @cons c _ h =>
    obtain ⟨b, hb⟩ | hlarge := ofBytes_utf8EncodeChar c
    · rw [hb] at has
      obtain ⟨rfl, rfl⟩ := List.cons.inj has
      exact h
    · obtain ⟨b, bs, hbs⟩ := List.exists_cons_of_ne_nil (ofBytes_utf8EncodeChar_ne_nil c)
      rw [hbs] at has hlarge
      obtain ⟨rfl, -⟩ := List.cons.inj has
      exact absurd (hlarge _ List.mem_cons_self) (by omega)

/-- The bytes of a text can be parted before an ASCII character. -/
theorem IsWhole.of_append (h : IsWhole (cs ++ ds)) (hds : ∀ a ∈ ds.head?, a.toNat < 128) :
    IsWhole cs ∧ IsWhole ds := by
  generalize has : cs ++ ds = as at h
  induction h generalizing cs with
  | nil =>
    obtain ⟨rfl, rfl⟩ := List.append_eq_nil_iff.mp has
    exact ⟨.nil, .nil⟩
  | @cons c more h ih =>
    cases cs with
    | nil =>
      rw [List.nil_append] at has
      exact ⟨.nil, has ▸ .cons c h⟩
    | cons d cs =>
      obtain ⟨bs, hcut, rfl⟩ | ⟨bs, hfront, rfl⟩ := List.append_eq_append_iff.mp has
      · -- Behind its first byte a character has no ASCII byte.
        cases bs with
        | nil =>
          rw [List.append_nil] at hcut
          exact ⟨by simpa [hcut] using IsWhole.cons c .nil, h⟩
        | cons b bs =>
          obtain ⟨a, ha⟩ | hlarge := ofBytes_utf8EncodeChar c
          · simpa using congrArg List.length (ha.symm.trans hcut)
          · have hb := hlarge b (by rw [hcut]; simp)
            exact absurd (hds b rfl) (by omega)
      · obtain ⟨hwhole, hrest⟩ := ih rfl
        exact ⟨hfront ▸ .cons c hwhole, hrest⟩

end SageEditor.Text.Octets

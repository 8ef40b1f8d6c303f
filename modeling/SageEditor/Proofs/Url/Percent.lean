/-
Bytes as they are spelled in the path of a URL.

* `Spells` — a text spells bytes: the separator of a path and unreserved characters stand for
  themselves, and every other byte is a percent sign with two hexadecimal digits;
* `exists_spells` — all bytes can be spelled;
* `decode_append`, `decode_of_spells` — the bytes of a spelling are those that it spells;
* `encode_of_spells`, `plainDots_of_spells` — a spelling is in its normal form already.

Design notes: the digits may be small or capital letters, so that bytes have several spellings.  A
dot is unreserved, hence never encoded, and what looks like a dot segment is one.
-/
import Mathlib.Data.List.Basic
import Mathlib.Data.Nat.Notation
import SageEditor.Url.Basic

namespace SageEditor.Percent

open Json.Read (hexValue?)

/-! ### Characters -/

/-- Characters that mean nothing in a URL but themselves. -/
def isUnreserved (c : Char) : Bool :=
  c.isAlphanum || ['-', '.', '_', '~'].contains c

/-- Bytes of a path that stand for themselves in a URL. -/
def isPlain (b : UInt8) : Bool :=
  b == Path.separator || isUnreserved (Char.ofNat b.toNat)

/-- Characters of which spellings are made. -/
def isSpelling (c : Char) : Bool :=
  isUnreserved c || c == '/' || c == '%'

theorem toNat_lt_of_isAlphanum {c : Char} (h : c.isAlphanum = true) : c.toNat < 128 := by
  delta Char.isAlphanum Char.isAlpha Char.isUpper Char.isLower Char.isDigit at h
  simp only [Bool.or_eq_true, Bool.and_eq_true, decide_eq_true_eq, ge_iff_le,
    UInt32.le_iff_toNat_le] at h
  simp at h
  omega

theorem toNat_lt_of_isSpelling {c : Char} (h : isSpelling c = true) : c.toNat < 128 := by
  simp only [isSpelling, isUnreserved, List.contains_iff_mem, Bool.or_eq_true, beq_iff_eq,
    List.mem_cons, List.not_mem_nil, or_false] at h
  rcases h with ((halphanum | rfl | rfl | rfl | rfl) | rfl) | rfl
  · exact toNat_lt_of_isAlphanum halphanum
  all_goals decide

/-- A spelling has no character by which a URL is structured, blank or encoded. -/
theorem inert_of_isSpelling {c : Char} (h : isSpelling c = true) :
    inPath c = false ∧ Url.isOuterBlank c = false ∧ Url.isInnerBlank c = false ∧ c ≠ '#' ∧
      c ≠ '?' ∧ c ≠ '\\' := by
  have hascii : ∀ n < 128, isSpelling (Char.ofNat n) = true →
      inPath (Char.ofNat n) = false ∧ Url.isOuterBlank (Char.ofNat n) = false ∧
        Url.isInnerBlank (Char.ofNat n) = false ∧ Char.ofNat n ≠ '#' ∧ Char.ofNat n ≠ '?' ∧
        Char.ofNat n ≠ '\\' := by decide +kernel
  have hc := hascii c.toNat (toNat_lt_of_isSpelling h)
  rw [Char.ofNat_toNat] at hc
  exact hc h

/-- A hexadecimal digit is a letter or a digit of a value below 16. -/
theorem of_hexValue? {c : Char} {x : ℕ} (h : hexValue? c = some x) :
    c.isAlphanum = true ∧ x < 16 := by
  have hdigits : ∀ n < 128, ∀ x ∈ hexValue? (Char.ofNat n),
      (Char.ofNat n).isAlphanum = true ∧ x < 16 := by decide +kernel
  have hascii : c.toNat < 128 := by
    simp only [hexValue?, Char.isDigit, Bool.and_eq_true, decide_eq_true_eq, ge_iff_le,
      Char.le_def, UInt32.le_iff_toNat_le] at h
    split at h
    · simp at *; omega
    split at h
    · simp at *; omega
    split at h
    · simp at *; omega
    · cases h
  have hc := hdigits c.toNat hascii
  rw [Char.ofNat_toNat] at hc
  exact hc x h

theorem of_isPlain {b : UInt8} (h : isPlain b = true) :
    String.utf8EncodeChar (Char.ofNat b.toNat) = [b] ∧ Char.ofNat b.toNat ≠ '%' ∧
      isSpelling (Char.ofNat b.toNat) = true := by
  have hall : ∀ n < 256, isPlain (UInt8.ofNat n) = true →
      String.utf8EncodeChar (Char.ofNat (UInt8.ofNat n).toNat) = [UInt8.ofNat n] ∧
        Char.ofNat (UInt8.ofNat n).toNat ≠ '%' ∧
        isSpelling (Char.ofNat (UInt8.ofNat n).toNat) = true := by
    decide +kernel
  have hb := hall b.toNat b.toNat_lt
  rw [UInt8.ofNat_toNat] at hb
  exact hb h

/-! ### Spellings -/

/-- A text spells bytes. -/
inductive Spells : Text.Bytes → List Char → Prop
  | nil : Spells [] []
  | plain {b bytes cs} (hb : isPlain b = true) (h : Spells bytes cs) :
      Spells (b :: bytes) (Char.ofNat b.toNat :: cs)
  | encoded {b bytes cs high low x y} (hb : isPlain b = false) (hhigh : hexValue? high = some x)
      (hlow : hexValue? low = some y) (hvalue : b.toNat = 16 * x + y) (h : Spells bytes cs) :
      Spells (b :: bytes) ('%' :: high :: low :: cs)

theorem exists_spells (bytes : Text.Bytes) : ∃ cs, Spells bytes cs := by
  induction bytes with
  | nil => exact ⟨[], .nil⟩
  | cons b bytes ih =>
    obtain ⟨cs, h⟩ := ih
    cases hb : isPlain b with
    | true => exact ⟨_, .plain hb h⟩
    | false =>
      have hdigit : ∀ x < 16, hexValue? (Nat.digitChar x).toUpper = some x := by decide
      have hlt := b.toNat_lt
      exact ⟨_, .encoded hb (hdigit (b.toNat / 16) (by omega)) (hdigit (b.toNat % 16) (by omega))
        (by omega) h⟩

variable {bytes : Text.Bytes} {cs : List Char}

theorem isSpelling_of_spells (h : Spells bytes cs) : ∀ c ∈ cs, isSpelling c = true := by
  induction h with
  | nil => simp
  | plain hb _ ih => exact List.forall_mem_cons.mpr ⟨(of_isPlain hb).2.2, ih⟩
  | encoded _ hhigh hlow _ _ ih =>
    have hdigit : ∀ {c x}, hexValue? c = some x → isSpelling c = true := fun h => by
      simp [isSpelling, isUnreserved, (of_hexValue? h).1]
    simp only [List.forall_mem_cons]
    exact ⟨rfl, hdigit hhigh, hdigit hlow, ih⟩

theorem decode_cons_of_ne {c : Char} (h : c ≠ '%') (cs : List Char) :
    decode (c :: cs) = String.utf8EncodeChar c ++ decode cs := by
  rw [decode]
  rintro a b rest rfl
  exact absurd rfl h

/-- The bytes of a text that begins with a spelling. -/
theorem decode_append (h : Spells bytes cs) (rest : List Char) :
    decode (cs ++ rest) = bytes ++ decode rest := by
  induction h with
  | nil => rfl
  | plain hb _ ih =>
    obtain ⟨hencode, hne, -⟩ := of_isPlain hb
    rw [List.cons_append, decode_cons_of_ne hne, hencode, ih, List.cons_append, List.nil_append,
      List.cons_append]
  | @encoded b _ _ _ _ x y _ hhigh hlow hvalue _ ih =>
    have hb : UInt8.ofNat (16 * x + y) = b := by rw [← hvalue, UInt8.ofNat_toNat]
    simp only [List.cons_append, decode, hhigh, hlow, hb, ih]

theorem decode_of_spells (h : Spells bytes cs) : decode cs = bytes := by
  have hall := decode_append h []
  rwa [List.append_nil, decode, List.append_nil] at hall

/-! ### Normal forms -/

/-- There is nothing to encode in a spelling. -/
theorem encode_of_spells (h : Spells bytes cs) : encode inPath cs = cs := by
  have hstays : ∀ c ∈ cs, (if inPath c || 0x7f < c.toNat then encodeChar c else [c]) = [c] := by
    intro c hc
    have hspelling := isSpelling_of_spells h c hc
    have hascii := toNat_lt_of_isSpelling hspelling
    rw [(inert_of_isSpelling hspelling).1, Bool.false_or, if_neg (by simp; omega)]
  rw [encode, List.flatMap_congr hstays, List.flatMap_singleton']

theorem solid_of_spells (h : Spells bytes cs) : Url.solid cs = cs := by
  refine List.filter_eq_self.mpr fun c hc => ?_
  rw [(inert_of_isSpelling (isSpelling_of_spells h c hc)).2.2.1, Bool.not_false]

theorem plainDots_cons_of_ne {c : Char} (h : c ≠ '%') (cs : List Char) :
    Url.plainDots (c :: cs) = c :: Url.plainDots cs := by
  rw [Url.plainDots]
  all_goals
    rintro rest rfl
    exact absurd rfl h

/-- No dot is encoded in a spelling. -/
theorem plainDots_of_spells (h : Spells bytes cs) : Url.plainDots cs = cs := by
  induction h with
  | nil => rfl
  | plain hb _ ih => rw [plainDots_cons_of_ne (of_isPlain hb).2.1, ih]
  | @encoded b _ cs high low x y hb hhigh hlow hvalue _ ih =>
    have hdigit : ∀ {c x}, hexValue? c = some x → c ≠ '%' := by
      rintro _ x hx rfl
      cases hx
    have hdot : ∀ {c}, (c = 'e' ∨ c = 'E') → high = '2' → low ≠ c := by
      rintro c hc rfl rfl
      have hx : x = 2 := (Option.some.inj hhigh).symm
      have hy : y = 14 := by rcases hc with rfl | rfl <;> exact (Option.some.inj hlow).symm
      have hdot : b = Path.dot := UInt8.toNat_inj.mp (by rw [hvalue, hx, hy]; rfl)
      rw [hdot] at hb
      exact absurd hb (by decide)
    rw [Url.plainDots, plainDots_cons_of_ne (hdigit hhigh), plainDots_cons_of_ne (hdigit hlow), ih]
    · rintro rest - hrest
      obtain ⟨hhigh', hlow', -⟩ := by simpa using hrest
      exact hdot (.inl rfl) hhigh' hlow'
    · rintro rest - hrest
      obtain ⟨hhigh', hlow', -⟩ := by simpa using hrest
      exact hdot (.inr rfl) hhigh' hlow'

end SageEditor.Percent

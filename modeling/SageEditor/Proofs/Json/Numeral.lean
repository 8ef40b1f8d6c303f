/-
Numbers as the grammar of JSON spells them.

* `NumeralText` — the texts of a numeral: a sign, a whole part without leading zeros, and
  optionally a fraction and an exponent;
* `Numeral.scan_append` — the reader of numerals takes such a text up to a delimiter;
* `Numeral.gather_eq` — digits that fit into a significand are all gathered;
* `Number.numeral` — the numeral that a number is written as;
* `Number.IsWhole`, `Number.number_of_isWhole` — a whole number of 64 bits is the one that its
  numeral denotes.

Design notes: the texts are described without the reader, so that what is proved of the reader
here compares it with the grammar.  Values of digits are those of `Nat.ofDigitChars`.
-/
import Mathlib.Data.Nat.Digits.Defs
import SageEditor.Proofs.Json.Lexeme

namespace SageEditor.Json

/-! ### The texts of a numeral -/

/-- A text of digits. -/
def AllDigits (cs : List Char) : Prop := ∀ c ∈ cs, c.isDigit = true

/-- The digits of a whole part: nothing follows a leading zero. -/
structure IsWholePart (ds : List Char) : Prop where
  ne_nil : ds ≠ []
  all : AllDigits ds
  zero : ∀ rest, ds = '0' :: rest → rest = []

/-- The text of an optional fraction. -/
inductive FractionText : Option (List Char) → List Char → Prop
  | none : FractionText none []
  | some {ds : List Char} (hne : ds ≠ []) (hall : AllDigits ds) :
    FractionText (some ds) ('.' :: ds)

/-- The sign of an exponent: a plus may be left out. -/
inductive SignText : Bool → List Char → Prop
  | none : SignText false []
  | plus : SignText false ['+']
  | minus : SignText true ['-']

/-- The text of an optional exponent. -/
inductive ExponentText : Option Numeral.Exponent → List Char → Prop
  | none : ExponentText none []
  | some {letter : Char} {minus : Bool} {sign ds : List Char}
    (hletter : letter = 'e' ∨ letter = 'E') (hsign : SignText minus sign) (hne : ds ≠ [])
    (hall : AllDigits ds) : ExponentText (some ⟨minus, ds⟩) (letter :: (sign ++ ds))

/-- The text of a numeral. -/
inductive NumeralText : Numeral → List Char → Prop
  | mk {minus : Bool} {whole : List Char} {fraction : Option (List Char)}
    {exponent : Option Numeral.Exponent} {fs es : List Char} (hwhole : IsWholePart whole)
    (hfraction : FractionText fraction fs) (hexponent : ExponentText exponent es) :
    NumeralText ⟨minus, whole, fraction, exponent⟩
      ((if minus then ['-'] else []) ++ (whole ++ (fs ++ es)))

/-! ### Reading a numeral -/

namespace Numeral

theorem noDigit_exponentText {e : Option Exponent} {es rest : List Char} (h : ExponentText e es)
    (hrest : Delimited rest) : NoDigit (es ++ rest) := by
  cases h with
  | none => exact hrest.noDigit
  | some hletter =>
    intro c hc
    obtain rfl : _ = c := by simpa using hc
    rcases hletter with rfl | rfl <;> decide

theorem noDigit_fractionText {f : Option (List Char)} {e : Option Exponent}
    {fs es rest : List Char} (hf : FractionText f fs) (he : ExponentText e es)
    (hrest : Delimited rest) : NoDigit (fs ++ (es ++ rest)) := by
  cases hf with
  | none =>
    rw [List.nil_append]
    exact noDigit_exponentText he hrest
  | some =>
    intro c hc
    obtain rfl : '.' = c := by simpa using hc
    decide

theorem scanExponentDigits_append {ds rest : List Char} (hne : ds ≠ []) (hall : AllDigits ds)
    (hrest : Delimited rest) (minus signed : Bool) :
    scanExponentDigits minus signed (ds ++ rest) = .ok (⟨minus, ds⟩, rest) := by
  obtain ⟨d, ds, rfl⟩ := List.exists_cons_of_ne_nil hne
  rw [scanExponentDigits, spanDigits_append hall hrest.noDigit]

theorem scanExponent_append {minus : Bool} {sign ds rest : List Char} (hsign : SignText minus sign)
    (hne : ds ≠ []) (hall : AllDigits ds) (hrest : Delimited rest) :
    scanExponent (sign ++ ds ++ rest) = .ok (⟨minus, ds⟩, rest) := by
  cases hsign with
  | plus => exact scanExponentDigits_append hne hall hrest false true
  | minus => exact scanExponentDigits_append hne hall hrest true true
  | none =>
    obtain ⟨d, ds, rfl⟩ := List.exists_cons_of_ne_nil hne
    have hd := hall d (by simp)
    rw [List.nil_append, List.cons_append, scanExponent]
    · exact scanExponentDigits_append (by simp) hall hrest false false
    · rintro cs heq
      rw [(List.cons.inj heq).1] at hd
      exact absurd hd (by decide)
    · rintro cs heq
      rw [(List.cons.inj heq).1] at hd
      exact absurd hd (by decide)

theorem scanTail_append {e : Option Exponent} {es rest : List Char} (he : ExponentText e es)
    (hrest : Delimited rest) (minus : Bool) (whole : List Char) (fraction : Option (List Char)) :
    scanTail minus whole fraction (es ++ rest) = .ok (⟨minus, whole, fraction, e⟩, rest) := by
  cases he with
  | none =>
    rw [List.nil_append, scanTail]
    · exact fun cs => ne_of_delimited hrest (by decide) cs
    · exact fun cs => ne_of_delimited hrest (by decide) cs
  | some hletter hsign hne hall =>
    rw [List.cons_append, scanTail_exponent hletter, scanExponent_append hsign hne hall hrest]
    rfl

theorem scanFraction_append {f : Option (List Char)} {e : Option Exponent}
    {fs es rest : List Char} (hf : FractionText f fs) (he : ExponentText e es)
    (hrest : Delimited rest) (minus : Bool) (whole : List Char) :
    scanFraction minus whole (fs ++ (es ++ rest)) = .ok (⟨minus, whole, f, e⟩, rest) := by
  cases hf with
  | some hne hall =>
    obtain ⟨d, ds, rfl⟩ := List.exists_cons_of_ne_nil hne
    have hspan := spanDigits_append hall (noDigit_exponentText he hrest)
    rw [List.cons_append, scanFraction, hspan]
    exact scanTail_append he hrest minus whole _
  | none =>
    rw [List.nil_append, scanFraction]
    · exact scanTail_append he hrest minus whole none
    · -- Neither an exponent nor a delimiter begins with a point.
      intro cs heq
      cases he with
      | none => exact ne_of_delimited hrest (by decide) cs heq
      | some hletter =>
        rw [List.cons_append] at heq
        rcases hletter with rfl | rfl <;> exact absurd (List.cons.inj heq).1 (by decide)

theorem spanWhole_append {ds rest : List Char} (hds : IsWholePart ds) (hrest : NoDigit rest) :
    spanWhole (ds ++ rest) = (ds, rest) := by
  obtain ⟨d, ds, rfl⟩ := List.exists_cons_of_ne_nil hds.ne_nil
  by_cases hd : d = '0'
  · subst hd
    obtain rfl := hds.zero ds rfl
    rfl
  · rw [List.cons_append, spanWhole]
    · exact spanDigits_append hds.all hrest
    · rintro cs heq
      exact hd (List.cons.inj heq).1

theorem scanUnsigned_append {whole : List Char} {f : Option (List Char)} {e : Option Exponent}
    {fs es rest : List Char} (hwhole : IsWholePart whole) (hf : FractionText f fs)
    (he : ExponentText e es) (hrest : Delimited rest) (minus : Bool) :
    scanUnsigned minus (whole ++ (fs ++ (es ++ rest))) = .ok (⟨minus, whole, f, e⟩, rest) := by
  have hspan := spanWhole_append hwhole (noDigit_fractionText hf he hrest)
  obtain ⟨d, ds, rfl⟩ := List.exists_cons_of_ne_nil hwhole.ne_nil
  rw [scanUnsigned, hspan]
  exact scanFraction_append hf he hrest minus _

/-- The reader of numerals takes the text of one up to a delimiter. -/
theorem scan_append {n : Numeral} {cs rest : List Char} (h : NumeralText n cs)
    (hrest : Delimited rest) : scan (cs ++ rest) = .ok (n, rest) := by
  cases h with
  | @mk minus whole f e fs es hwhole hf he =>
    have hunsigned := scanUnsigned_append hwhole hf he hrest minus
    cases minus with
    | true => simpa [scan] using hunsigned
    | false =>
      obtain ⟨d, ds, rfl⟩ := List.exists_cons_of_ne_nil hwhole.ne_nil
      have hd := hwhole.all d (by simp)
      simp only [Bool.false_eq_true, if_false, List.nil_append, List.append_assoc]
      rw [List.cons_append, scan]
      · exact hunsigned
      · rintro cs heq
        rw [(List.cons.inj heq).1] at hd
        exact absurd hd (by decide)

end Numeral

/-- The text of a numeral is an atom. -/
theorem isAtomChar_of_numeralText {n : Numeral} {cs : List Char} (h : NumeralText n cs) :
    cs ≠ [] ∧ ∀ c ∈ cs, isAtomChar c = true := by
  have hscan := Numeral.scan_append h delimited_nil
  rw [List.append_nil] at hscan
  obtain ⟨hhead, taken, htaken, hatoms, -⟩ := Numeral.took_of_scan hscan
  rw [List.append_nil] at htaken
  refine ⟨?_, htaken ▸ hatoms⟩
  rintro rfl
  simp at hhead

/-- A numeral is read by the reader of JSON. -/
theorem numeral_append {n : Numeral} {cs rest : List Char} (h : NumeralText n cs)
    (hrest : Delimited rest) (atEnd : Fault) :
    Read.numeral atEnd (cs ++ rest) = .ok (n, rest) := by
  rw [Read.numeral, Numeral.scan_append h hrest]
  cases rest with
  | nil => rfl
  | cons c rest => simp [hrest.noDigit c rfl]

/-! ### Whole numbers -/

namespace Numeral

theorem digitValue_eq (c : Char) : digitValue c = c.toNat - '0'.toNat := rfl

theorem le_ofDigitChars (ds : List Char) (acc : ℕ) : acc ≤ Nat.ofDigitChars 10 ds acc := by
  induction ds generalizing acc with
  | nil => exact le_refl acc
  | cons d ds ih =>
    have hstep := ih (10 * acc + (d.toNat - '0'.toNat))
    rw [Nat.ofDigitChars, List.foldl_cons]
    exact le_trans (by omega) hstep

/-- Digits that fit into the significand are all gathered. -/
theorem gather_eq {ds : List Char} {acc : ℕ} (h : Nat.ofDigitChars 10 ds acc ≤ maxSignificand) :
    gather acc ds = (Nat.ofDigitChars 10 ds acc, []) := by
  induction ds generalizing acc with
  | nil => rfl
  | cons d ds ih =>
    have hnext : acc * 10 + digitValue d = 10 * acc + (d.toNat - '0'.toNat) := by
      rw [digitValue_eq, Nat.mul_comm]
    have hrest : Nat.ofDigitChars 10 (d :: ds) acc =
        Nat.ofDigitChars 10 ds (acc * 10 + digitValue d) := by
      rw [hnext]
      rfl
    rw [hrest] at h ⊢
    rw [gather, if_pos (le_trans (le_ofDigitChars ds _) h)]
    exact ih h

theorem head_toDigits {n : ℕ} (hn : 0 < n) {rest : List Char} : Nat.toDigits 10 n ≠ '0' :: rest := by
  induction n using Nat.strong_induction_on generalizing rest with
  | _ n ih =>
    rcases Nat.lt_or_ge n 10 with hlt | hge
    · intro heq
      rw [Nat.toDigits_of_lt_base hlt] at heq
      obtain ⟨hchar, -⟩ := List.cons.inj heq
      have hpos : ∀ k < 10, 0 < k → Nat.digitChar k ≠ '0' := by decide
      exact hpos n hlt hn hchar
    · -- The first digit is that of the number without its last digit.
      intro heq
      have hsplit := Nat.toDigits_append_toDigits (b := 10) (n := n / 10) (d := n % 10)
        (by decide) (by omega) (Nat.mod_lt n (by decide))
      rw [Nat.div_add_mod, heq] at hsplit
      cases hfront : Nat.toDigits 10 (n / 10) with
      | nil => exact Nat.toDigits_ne_nil hfront
      | cons d ds =>
        rw [hfront, List.cons_append] at hsplit
        obtain ⟨rfl, -⟩ := List.cons.inj hsplit
        exact ih (n / 10) (by omega) (by omega) hfront

/-- The decimal digits of a natural number are the whole part of a numeral. -/
theorem isWholePart_toDigits (n : ℕ) : IsWholePart (Nat.toDigits 10 n) := by
  refine ⟨Nat.toDigits_ne_nil, fun c hc => Nat.isDigit_of_mem_toDigits (by decide) (by decide) hc,
    fun rest heq => ?_⟩
  rcases Nat.eq_zero_or_pos n with rfl | hn
  · rw [Nat.toDigits_of_lt_base (by decide)] at heq
    exact (List.cons.inj heq).2.symm
  · exact absurd heq (head_toDigits hn)

/-- The numeral of a whole number. -/
def ofWhole (minus : Bool) (n : ℕ) : Numeral := ⟨minus, Nat.toDigits 10 n, none, none⟩

theorem numeralText_ofWhole (minus : Bool) (n : ℕ) :
    NumeralText (ofWhole minus n) ((if minus then ['-'] else []) ++ Nat.toDigits 10 n) := by
  have htext : NumeralText ⟨minus, Nat.toDigits 10 n, none, none⟩
      ((if minus then ['-'] else []) ++ (Nat.toDigits 10 n ++ ([] ++ []))) :=
    .mk (isWholePart_toDigits n) .none .none
  rwa [List.append_nil, List.append_nil] at htext

theorem gather_toDigits {n : ℕ} (hn : n ≤ maxSignificand) :
    gather 0 (Nat.toDigits 10 n) = (n, []) := by
  have hvalue : Nat.ofDigitChars 10 (Nat.toDigits 10 n) 0 = n := Nat.ofDigitChars_ten_toDigits
  have hfits : Nat.ofDigitChars 10 (Nat.toDigits 10 n) 0 ≤ maxSignificand := by rwa [hvalue]
  rw [gather_eq hfits, hvalue]

end Numeral

/-- A whole number of 64 bits. -/
def Number.IsWhole : Number → Prop
  | .natural n => n ≤ Numeral.maxSignificand
  | .negative n => 0 < n ∧ n ≤ Numeral.maxNegative
  | .double .. => False

instance (x : Number) : Decidable x.IsWhole := by
  cases x <;> unfold Number.IsWhole <;> infer_instance

namespace Number

/-- The numeral that a number is written as. -/
def numeral (x : Number) : Numeral :=
  match Numeral.scan x.text.toList with
  | .ok (n, _) => n
  | .error _ => .ofWhole false 0

theorem numeral_eq {x : Number} {n : Numeral} (h : NumeralText n x.text.toList) :
    x.numeral = n := by
  have hscan := Numeral.scan_append h delimited_nil
  rw [List.append_nil] at hscan
  rw [numeral, hscan]

theorem numeralText_natural (n : ℕ) :
    NumeralText (.ofWhole false n) (Number.natural n).text.toList := by
  have hdigits : (toString n).toList = Nat.toDigits 10 n := Nat.toList_repr
  rw [text, hdigits]
  exact Numeral.numeralText_ofWhole false n

theorem numeralText_negative (n : ℕ) :
    NumeralText (.ofWhole true n) (Number.negative n).text.toList := by
  have hdigits : (toString n).toList = Nat.toDigits 10 n := Nat.toList_repr
  rw [text, String.toList_append, hdigits]
  exact Numeral.numeralText_ofWhole true n

theorem exists_numeralText_of_isWhole {x : Number} (h : x.IsWhole) :
    ∃ n, NumeralText n x.text.toList ∧ n.number = .ok x := by
  cases x with
  | natural n =>
    refine ⟨.ofWhole false n, numeralText_natural n, ?_⟩
    simp [Numeral.ofWhole, Numeral.number, Numeral.gather_toDigits h]
  | negative n =>
    obtain ⟨hpos, hle⟩ := h
    have hgather := Numeral.gather_toDigits
      (le_trans hle (by decide : Numeral.maxNegative ≤ Numeral.maxSignificand))
    have hrange : ¬ (n = 0 ∨ Numeral.maxNegative < n) := by omega
    refine ⟨.ofWhole true n, numeralText_negative n, ?_⟩
    simp [Numeral.ofWhole, Numeral.number, hgather, hrange]
  | double => exact h.elim

/-- A whole number is the one that its numeral denotes. -/
theorem number_of_isWhole {x : Number} (h : x.IsWhole) : x.numeral.number = .ok x := by
  obtain ⟨n, hn, hnumber⟩ := exists_numeralText_of_isWhole h
  rwa [numeral_eq hn]

end Number

end SageEditor.Json

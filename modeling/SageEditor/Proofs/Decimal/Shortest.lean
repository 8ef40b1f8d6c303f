/-
The text of a floating point number is a number of JSON.

* `IsLeading` — digits with the power of ten of the first: no leading zero, but for zero itself;
* `Shortest.isLeading_digits` — the shortest digits of a positive magnitude are such digits;
* `Json.Number.numeralText` — every number is written as a numeral.

Design notes: that no digits begin with a zero needs no bound on the search for the leading power.
Zero never lies in the interval of a positive magnitude, so a grid point that is taken is not zero
whatever the grid.
-/
import Mathlib.Data.List.DropRight
import SageEditor.Proofs.Json.Numeral

namespace SageEditor

open Json

/-! ### Digits -/

/-- Digits and the power of ten of the first of them, which is zero only for the number zero. -/
structure IsLeading (ds : List Char) (power : ℤ) : Prop where
  ne_nil : ds ≠ []
  all : AllDigits ds
  zero : ∀ rest, ds = '0' :: rest → rest = [] ∧ power = 0

theorem isLeading_zero : IsLeading ['0'] 0 := by
  refine ⟨by simp, fun c hc => ?_, fun rest heq => ⟨(List.cons.inj heq).2.symm, rfl⟩⟩
  rw [List.mem_singleton.mp hc]
  rfl

/-- Zeros at the end may be left out of the digits of a positive number. -/
theorem isLeading_shortened {n : ℕ} (hn : 0 < n) (power : ℤ) :
    IsLeading ((Nat.toDigits 10 n).reverse.dropWhile (· == '0')).reverse power := by
  have hfront := List.rdropWhile_prefix (· == '0') (Nat.toDigits 10 n)
  have hdigits := Numeral.isWholePart_toDigits n
  obtain ⟨d, ds, heq⟩ := List.exists_cons_of_ne_nil hdigits.ne_nil
  have hd : d ≠ '0' := by
    rintro rfl
    exact Numeral.head_toDigits hn heq
  change IsLeading ((Nat.toDigits 10 n).rdropWhile (· == '0')) power
  refine ⟨fun hnil => ?_, fun c hc => hdigits.all c (hfront.subset hc), fun rest hrest => ?_⟩
  · have hzeros := List.rdropWhile_eq_nil_iff.mp hnil d (by simp [heq])
    exact hd (by simpa using hzeros)
  · rw [hrest, heq, List.cons_prefix_cons] at hfront
    exact absurd hfront.1.symm hd

namespace Shortest

/-- Zero does not lie in an interval above zero. -/
theorem not_contains_zero {i : Interval} (hlow : 0 < i.low) (den : ℕ) (step : ℤ) :
    i.contains den (gridPoint 0 step) = false := by
  have hpow : ∀ k, 0 < pow10 k := fun k => Nat.pow_pos (by decide)
  have hden : 0 < (gridPoint 0 step).2 := by
    cases step with
    | ofNat k => exact Nat.one_pos
    | negSucc k => exact hpow (k + 1)
  have hnum : (gridPoint 0 step).1 = 0 := by
    cases step <;> simp [gridPoint]
  have hpos : 0 < i.low * (gridPoint 0 step).2 := Nat.mul_pos hlow hden
  rw [Interval.contains, hnum]
  split
  · simp only [Nat.zero_mul, Bool.and_eq_false_iff, decide_eq_false_iff_not]
    left
    omega
  · simp

theorem onGrid_pos {i : Interval} (hlow : 0 < i.low) {num den n : ℕ} {step : ℤ}
    (h : onGrid i num den step = some n) : 0 < n := by
  unfold onGrid at h
  extract_lets below lower upper at h
  -- The lower neighbour is only taken if it lies in the interval, so it is not zero.
  have hbelow : lower = true → 0 < below := by
    intro hlower
    by_contra hzero
    have hnone : lower = i.contains den (gridPoint 0 step) := by
      simp only [lower, Nat.eq_zero_of_not_pos hzero]
    rw [hnone, not_contains_zero hlow] at hlower
    cases hlower
  cases hlower : lower <;> cases hupper : upper <;> simp only [hlower, hupper] at h
  · cases h
  · obtain rfl := Option.some.inj h
    exact Nat.succ_pos below
  · obtain rfl := Option.some.inj h
    exact hbelow hlower
  · have hpos := hbelow hlower
    split at h
    · obtain rfl := Option.some.inj h
      exact Nat.succ_pos below
    · split at h
      · obtain rfl := Option.some.inj h
        omega
      · obtain rfl := Option.some.inj h
        exact hpos

theorem isLeading_grow {i : Interval} (hlow : 0 < i.low) (scaled den : ℕ) (power : ℤ)
    (count fuel : ℕ) :
    IsLeading (digits.grow scaled i den power count fuel).1
      (digits.grow scaled i den power count fuel).2 := by
  induction fuel generalizing count with
  | zero => exact isLeading_zero
  | succ fuel ih =>
    rw [digits.grow]
    cases hgrid : onGrid i scaled den (power - count) with
    | none => exact ih (count + 1)
    | some n => exact isLeading_shortened (onGrid_pos hlow hgrid) _

/-- The shortest digits of a positive magnitude. -/
theorem isLeading_digits {x : Binary64} (hx : x.mantissa ≠ 0) :
    IsLeading (digits x).1 (digits x).2 := by
  refine isLeading_grow ?_ _ _ _ 0 18
  refine Nat.mul_pos ?_ (Nat.pow_pos (by decide))
  simp only [interval]
  split <;> omega

/-! ### Texts -/

theorem toList_pushn (k : ℕ) : ("".pushn '0' k).toList = List.replicate k '0' := by
  induction k with
  | zero => simp [String.pushn, Nat.repeat]
  | succ k ih =>
    have hpush : "".pushn '0' (k + 1) = ("".pushn '0' k).push '0' := rfl
    rw [hpush, String.toList_push, ih, List.replicate_succ']

theorem allDigits_replicate (k : ℕ) : AllDigits (List.replicate k '0') := by
  intro c hc
  rw [List.eq_of_mem_replicate hc]
  rfl

end Shortest

open Shortest

/-- The parts of a number, for a text with a sign in front of it. -/
theorem numeralText_double {x : Binary64} {whole : List Char} {fraction : Option (List Char)}
    {exponent : Option Numeral.Exponent} {fs es : List Char}
    (htext : (Shortest.text x).toList = whole ++ (fs ++ es)) (hwhole : IsWholePart whole)
    (hfraction : FractionText fraction fs) (hexponent : ExponentText exponent es) (minus : Bool) :
    NumeralText ⟨minus, whole, fraction, exponent⟩ (Number.double minus x).text.toList := by
  have hsigned : (Number.double minus x).text.toList =
      (if minus then ['-'] else []) ++ (whole ++ (fs ++ es)) := by
    rw [Number.text, String.toList_append, htext]
    cases minus <;> rfl
  rw [hsigned]
  exact .mk hwhole hfraction hexponent

section Formats

variable {x : Binary64} {d : Char} {rest : List Char} {power : ℤ} (minus : Bool)

/-- Below one, zeros stand between the point and the digits. -/
theorem numeralText_below_one {k : ℕ} (hx : x.mantissa ≠ 0)
    (hd : digits x = (d :: rest, .negSucc k)) (hleading : IsLeading (d :: rest) (.negSucc k))
    (hrange : -5 ≤ Int.negSucc k) : ∃ n, NumeralText n (Number.double minus x).text.toList := by
  have htext : (Shortest.text x).toList =
      ['0'] ++ ('.' :: (List.replicate k '0' ++ d :: rest) ++ []) := by
    have hlimit : Int.negSucc k < positionalLimit := lt_trans (Int.negSucc_lt_zero k) (by decide)
    simp [Shortest.text, hx, hd, hrange, hlimit, toList_pushn]
  have hall : AllDigits (List.replicate k '0' ++ d :: rest) :=
    List.forall_mem_append.mpr ⟨allDigits_replicate k, hleading.all⟩
  exact ⟨_, numeralText_double htext (Numeral.isWholePart_toDigits 0) (.some (by simp) hall) .none
    minus⟩

/-- Up to the limit, zeros fill the whole part up and the fraction has a digit at least. -/
theorem numeralText_positional {k : ℕ} (hx : x.mantissa ≠ 0)
    (hd : digits x = (d :: rest, .ofNat k)) (hleading : IsLeading (d :: rest) (.ofNat k))
    (hrange : Int.ofNat k < positionalLimit) :
    ∃ n, NumeralText n (Number.double minus x).text.toList := by
  have hdigits := hleading.all
  have hbound : (k : ℤ) < positionalLimit := hrange
  have htext : (Shortest.text x).toList =
      (d :: (rest.take k ++ List.replicate (k - min k rest.length) '0')) ++
        ('.' :: (if rest.length ≤ k then ['0'] else rest.drop k) ++ []) := by
    have hlow : -5 ≤ (k : ℤ) := by omega
    by_cases hlength : rest.length ≤ k <;>
      simp [Shortest.text, hx, hd, hbound, hlow, hlength, toList_pushn]
  have hwhole : IsWholePart (d :: (rest.take k ++ List.replicate (k - min k rest.length) '0')) := by
    refine ⟨by simp, ?_, fun tail heq => ?_⟩
    · refine List.forall_mem_cons.mpr ⟨hdigits d (by simp), List.forall_mem_append.mpr ⟨?_, ?_⟩⟩
      · exact fun c hc => hdigits c (List.mem_cons_of_mem d (List.mem_of_mem_take hc))
      · exact allDigits_replicate _
    · -- Only zero begins with a zero, and its digits are not filled up.
      obtain ⟨rfl, rfl⟩ := List.cons.inj heq
      obtain ⟨rfl, hzero⟩ := hleading.zero rest rfl
      obtain rfl : k = 0 := by simpa using hzero
      rfl
  have hfraction : FractionText (some (if rest.length ≤ k then ['0'] else rest.drop k))
      ('.' :: (if rest.length ≤ k then ['0'] else rest.drop k)) := by
    split
    · exact .some (by simp) (allDigits_replicate 1)
    · next hlength =>
      refine .some (by simpa using hlength) fun c hc => ?_
      exact hdigits c (List.mem_cons_of_mem d (List.mem_of_mem_drop hc))
  exact ⟨_, numeralText_double htext hwhole hfraction .none minus⟩

/-- Everywhere else there is one digit before the point, and the power is the exponent. -/
theorem numeralText_scientific (hx : x.mantissa ≠ 0) (hd : digits x = (d :: rest, power))
    (hleading : IsLeading (d :: rest) power) (hrange : ¬ (-5 ≤ power ∧ power < positionalLimit)) :
    ∃ n, NumeralText n (Number.double minus x).text.toList := by
  have hwhole : IsWholePart [d] :=
    ⟨by simp, fun c hc => hleading.all c (by simp_all), fun tail heq => (List.cons.inj heq).2.symm⟩
  have hexponent : ExponentText (some ⟨power < 0, Nat.toDigits 10 power.natAbs⟩)
      ('e' :: ((if power < 0 then ['-'] else ['+']) ++ Nat.toDigits 10 power.natAbs)) := by
    have hdigits := Numeral.isWholePart_toDigits power.natAbs
    refine .some (.inl rfl) ?_ hdigits.ne_nil hdigits.all
    by_cases hneg : power < 0
    · simpa [hneg] using SignText.minus
    · simpa [hneg] using SignText.plus
  have hsign : (if power < 0 then "-" else "+").toList = if power < 0 then ['-'] else ['+'] := by
    split <;> rfl
  cases rest with
  | nil =>
    have htext : (Shortest.text x).toList =
        [d] ++ ([] ++ ('e' :: ((if power < 0 then ['-'] else ['+']) ++
          Nat.toDigits 10 power.natAbs))) := by
      simp [Shortest.text, hx, hd, hrange, hsign]
    exact ⟨_, numeralText_double htext hwhole .none hexponent minus⟩
  | cons d' rest =>
    have htext : (Shortest.text x).toList =
        [d] ++ (('.' :: d' :: rest) ++ ('e' :: ((if power < 0 then ['-'] else ['+']) ++
          Nat.toDigits 10 power.natAbs))) := by
      simp [Shortest.text, hx, hd, hrange, hsign]
    have hall : AllDigits (d' :: rest) := fun c hc => hleading.all c (List.mem_cons_of_mem d hc)
    exact ⟨_, numeralText_double htext hwhole (.some (by simp) hall) hexponent minus⟩

theorem exists_numeralText_double (x : Binary64) :
    ∃ n, NumeralText n (Number.double minus x).text.toList := by
  by_cases hx : x.mantissa = 0
  · have htext : (Shortest.text x).toList = ['0'] ++ (['.', '0'] ++ []) := by
      rw [Shortest.text, if_pos hx]
      rfl
    exact ⟨_, numeralText_double htext (Numeral.isWholePart_toDigits 0)
      (.some (by simp) (allDigits_replicate 1)) .none minus⟩
  · have hleading := isLeading_digits hx
    rcases hd : digits x with ⟨ds, power⟩
    rw [hd] at hleading
    obtain ⟨d, rest, rfl⟩ := List.exists_cons_of_ne_nil hleading.ne_nil
    by_cases hrange : -5 ≤ power ∧ power < positionalLimit
    · cases power with
      | negSucc k => exact numeralText_below_one minus hx hd hleading hrange.1
      | ofNat k => exact numeralText_positional minus hx hd hleading hrange.2
    · exact numeralText_scientific minus hx hd hleading hrange

end Formats

/-- Every number is written as a numeral. -/
theorem Json.Number.numeralText (x : Number) : NumeralText x.numeral x.text.toList := by
  have hexists : ∃ n, NumeralText n x.text.toList := by
    have hdigits : ∀ n : ℕ, (toString n).toList = Nat.toDigits 10 n := fun _ => Nat.toList_repr
    cases x with
    | natural n =>
      rw [Number.text, hdigits]
      exact ⟨_, Numeral.numeralText_ofWhole false n⟩
    | negative n =>
      rw [Number.text, String.toList_append, hdigits]
      exact ⟨_, Numeral.numeralText_ofWhole true n⟩
    | double minus x => exact exists_numeralText_double minus x
  obtain ⟨n, hn⟩ := hexists
  rwa [Number.numeral_eq hn]

end SageEditor

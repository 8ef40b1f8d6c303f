/-
Binary floating point numbers of 64 bits, as exact values.

* `Binary64` — a finite magnitude `mantissa · 2 ^ scale / 2 ^ 1074`;
* `Binary64.round?` — the nearest such magnitude to a quotient of natural numbers, ties to the
  even mantissa, `none` beyond the largest;
* `Binary64.mul?`, `Binary64.div?` — the product and the quotient, rounded once.

Design notes: signs, infinities and NaN are left out, since a JSON number has no infinite value
and its sign is kept beside it.  All arithmetic is on natural numbers, so every value can be
computed by the kernel.
-/
import SageEditor.Decimal.Power

namespace SageEditor

/-- A finite magnitude in binary floating point of 64 bits: `mantissa · 2 ^ scale / 2 ^ 1074`.
The mantissa has at most 53 bits, and exactly 53 unless the scale is zero. -/
structure Binary64 where
  mantissa : Nat
  scale : Nat
deriving DecidableEq, Repr, Inhabited

namespace Binary64

/-- The unit in which magnitudes are whole numbers is `1 / 2 ^ 1074`. -/
def unitBits : Nat := 1074

/-- The largest scale of a finite magnitude. -/
def maxScale : Nat := 2045

/-- The highest of the 53 bits of a mantissa. -/
def leadingBit : Nat := 0x10000000000000

def zero : Binary64 := ⟨0, 0⟩

/-- The quotient rounded to the nearest natural number, a half going to the even one. -/
def divNearest (num den : Nat) : Nat :=
  let q := num / den
  let twice := 2 * (num % den)
  if twice < den then q
  else if den < twice then q + 1
  else q + q % 2

def bitLength (n : Nat) : Nat :=
  if n = 0 then 0 else Nat.log2 n + 1

/-- The magnitude nearest to `num / den`, or `none` if that is beyond the largest one. -/
def round? (num den : Nat) : Option Binary64 :=
  let num := num * pow2 unitBits
  -- With fewer than 53 bits the scale is zero, so that small magnitudes keep the unit.
  let scale := bitLength (num / den) - 53
  let mantissa := divNearest num (den * pow2 scale)
  -- Rounding up can take one bit more.
  let (mantissa, scale) := if mantissa = 2 * leadingBit then (leadingBit, scale + 1) else (mantissa, scale)
  if maxScale < scale then none else some ⟨mantissa, scale⟩

/-- The magnitude in units of `1 / 2 ^ 1074`. -/
def units (x : Binary64) : Nat :=
  x.mantissa * pow2 x.scale

def mul? (x y : Binary64) : Option Binary64 :=
  round? (x.units * y.units) (pow2 (2 * unitBits))

/-- The quotient by a magnitude other than zero, rounded. -/
def div? (x y : Binary64) : Option Binary64 :=
  round? x.units y.units

end Binary64

end SageEditor

/-
Decimal numerals, as text and as numbers.

* `Numeral.scan` — the longest numeral at the start of a text;
* `Numeral.number` — the number it denotes.

Design notes: the digits of a numeral are gathered into a significand of 64 bits for as long as
they fit.  Later digits are dropped; those of the whole part still count as powers of ten.  The
significand is then multiplied or divided by one power of ten in binary floating point, so the
result can be a few units off the nearest number.  Values that are too large are refused, values
that are too small become zero.
-/
import SageEditor.Json.Basic

namespace SageEditor.Json

structure Numeral.Exponent where
  minus : Bool
  digits : List Char
deriving DecidableEq, Repr

structure Numeral where
  minus : Bool
  whole : List Char
  fraction : Option (List Char)
  exponent : Option Numeral.Exponent
deriving DecidableEq, Repr

namespace Numeral

/-- Which digit of a numeral is missing. -/
inductive MissingDigit where
  | ofWhole
  | ofFraction
  /-- The exponent has no digit; `signed` if it has a sign. -/
  | ofExponent (signed : Bool)
deriving DecidableEq, Repr

def spanDigits (cs : List Char) : List Char × List Char :=
  cs.span Char.isDigit

/-- Reads the digits of an exponent after its sign. -/
def scanExponentDigits (minus signed : Bool) (cs : List Char) :
    Except (MissingDigit × List Char) (Exponent × List Char) :=
  match spanDigits cs with
  | ([], _) => .error (.ofExponent signed, cs)
  | (digits, rest) => .ok (⟨minus, digits⟩, rest)

/-- Reads the exponent after its `e`. -/
def scanExponent (cs : List Char) :
    Except (MissingDigit × List Char) (Exponent × List Char) :=
  match cs with
  | '-' :: rest => scanExponentDigits true true rest
  | '+' :: rest => scanExponentDigits false true rest
  | _ => scanExponentDigits false false cs

/-- Reads the optional exponent of a numeral. -/
def scanTail (minus : Bool) (whole : List Char) (fraction : Option (List Char))
    (cs : List Char) : Except (MissingDigit × List Char) (Numeral × List Char) :=
  match cs with
  | 'e' :: rest | 'E' :: rest => do
    let (exponent, rest) ← scanExponent rest
    return (⟨minus, whole, fraction, some exponent⟩, rest)
  | _ => .ok (⟨minus, whole, fraction, none⟩, cs)

/-- Reads the optional fraction and exponent of a numeral. -/
def scanFraction (minus : Bool) (whole : List Char) (cs : List Char) :
    Except (MissingDigit × List Char) (Numeral × List Char) :=
  match cs with
  | '.' :: rest =>
    match spanDigits rest with
    | ([], _) => .error (.ofFraction, rest)
    | (fraction, rest) => scanTail minus whole (some fraction) rest
  | _ => scanTail minus whole none cs

/-- The whole part at the start of a text, and the rest: nothing may follow a leading zero. -/
def spanWhole (cs : List Char) : List Char × List Char :=
  match cs with
  | '0' :: rest => (['0'], rest)
  | _ => spanDigits cs

def scanUnsigned (minus : Bool) (cs : List Char) :
    Except (MissingDigit × List Char) (Numeral × List Char) :=
  match spanWhole cs with
  | ([], _) => .error (.ofWhole, cs)
  | (whole, rest) => scanFraction minus whole rest

/-- Reads the longest numeral at the start of a text: a sign, a whole part that is zero or begins
with another digit, and optionally a fraction and an exponent. Where a digit is missing, the
error holds the text from there on. -/
def scan (cs : List Char) : Except (MissingDigit × List Char) (Numeral × List Char) :=
  match cs with
  | '-' :: rest => scanUnsigned true rest
  | _ => scanUnsigned false cs

def text (n : Numeral) : List Char :=
  let sign := if n.minus then ['-'] else []
  let fraction := match n.fraction with
    | none => []
    | some ds => '.' :: ds
  let exponent := match n.exponent with
    | none => []
    | some e => 'e' :: (if e.minus then ['-'] else []) ++ e.digits
  sign ++ n.whole ++ fraction ++ exponent

def digitValue (c : Char) : Nat := c.toNat - '0'.toNat

/-- The greatest significand: that of 64 bits. -/
def maxSignificand : Nat := 0xffffffffffffffff

/-- Appends digits to a significand while the result fits, and returns the digits left over. -/
def gather (significand : Nat) : List Char → Nat × List Char
  | [] => (significand, [])
  | d :: ds =>
    let next := significand * 10 + digitValue d
    if next ≤ maxSignificand then gather next ds else (significand, d :: ds)

/-- The greatest exponent that is still counted: that of 31 bits. -/
def maxExponent : Nat := 0x7fffffff

/-- The value of exponent digits, or the digits left over where it grows beyond `maxExponent`. -/
def exponentValue (value : Nat) : List Char → Except (List Char) Nat
  | [] => .ok value
  | d :: ds =>
    let next := value * 10 + digitValue d
    if next ≤ maxExponent then exponentValue next ds else .error ds

/-- The power of ten nearest to `10 ^ k`. -/
def tenPower (k : Nat) : Binary64 :=
  (Binary64.round? (pow10 k) 1).getD .zero

/-- The greatest power of ten in binary floating point. -/
def maxTenPower : Nat := 308

/-- Divides by `10 ^ k`, in steps of at most `10 ^ 308`. -/
def divideByTens (x : Binary64) (k : Nat) : Binary64 :=
  if x.mantissa = 0 then x
  else if _h : k ≤ maxTenPower then (x.div? (tenPower k)).getD .zero
  else divideByTens ((x.div? (tenPower maxTenPower)).getD .zero) (k - maxTenPower)
termination_by k
decreasing_by simp only [maxTenPower] at _h ⊢; omega

/-- The significand times a power of ten, if it is not too large. -/
def scale? (significand : Nat) (power : Int) : Option Binary64 := do
  let x ← Binary64.round? significand 1
  match power with
  | .ofNat k =>
    if k ≤ maxTenPower then x.mul? (tenPower k)
    else if x.mantissa = 0 then some x
    else none
  | .negSucc k => some (divideByTens x (k + 1))

/-- The greatest whole number with a minus sign that is kept as it is. -/
def maxNegative : Nat := 0x8000000000000000

/-- The number of a numeral. One that is too large is refused, with the digits of its exponent
that were not looked at. -/
def number (n : Numeral) : Except (List Char) Number :=
  let (significand, dropped) := gather 0 n.whole
  -- Whole numbers that fit are kept as they are, all others go through floating point.
  match n.fraction, n.exponent, dropped with
  | none, none, [] =>
    if !n.minus then .ok (.natural significand)
    -- Zero with a sign is no whole number.
    else if significand = 0 || maxNegative < significand then double significand 0
    else .ok (.negative significand)
  | _, _, _ =>
    let fraction := n.fraction.getD []
    let (significand, left) := gather significand fraction
    -- Digits that were dropped before the point raise the power, those gathered behind it lower it.
    let power : Int := dropped.length - (fraction.length - left.length : Nat)
    match n.exponent with
    | none => double significand power
    | some e =>
      match exponentValue 0 e.digits with
      | .ok value => double significand (if e.minus then power - value else power + value)
      | .error unread =>
        -- So large an exponent leaves nothing but zero, or no number at all.
        if significand ≠ 0 && !e.minus then .error unread
        else .ok (.double n.minus .zero)
where
  /-- The significand times a power of ten, in binary floating point. -/
  double (significand : Nat) (power : Int) : Except (List Char) Number :=
    match scale? significand power with
    | some x => .ok (.double n.minus x)
    | none => .error []

end Numeral

end SageEditor.Json

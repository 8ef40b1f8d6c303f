/-
The shortest decimal that reads back as a given binary floating point number.

* `Shortest.digits` — its digits and the power of ten of the first of them;
* `Shortest.text` — the decimal written out.

Design notes: the reals that round to a magnitude form an interval around it, which contains its
ends when the mantissa is even.  For 1, 2, … digits the two neighbours of the magnitude on that
decimal grid are tried; the first grid with a neighbour in the interval wins, and of two the
nearer one, or the even one if both are equally near.  Seventeen digits always suffice.
-/
import SageEditor.Decimal.Binary64

namespace SageEditor.Shortest

/-- The interval of reals that round to a magnitude, in quarters of `2 ^ scale / 2 ^ 1074`. -/
structure Interval where
  low : Nat
  value : Nat
  high : Nat
  closed : Bool

/-- The interval of a magnitude. Below a power of two the neighbour is only half as far away. -/
def interval (x : Binary64) : Interval :=
  let nearBelow := x.mantissa == Binary64.leadingBit && x.scale != 0
  { low := 4 * x.mantissa - (if nearBelow then 1 else 2)
    value := 4 * x.mantissa
    high := 4 * x.mantissa + 2
    closed := x.mantissa % 2 == 0 }

/-- The greatest power of ten that is at most `num / den`, searched from `10 ^ start` down. -/
def leadingPower (num den : Nat) : (start : Nat) → Nat → Int
  | start, 0 => start
  | start, fuel + 1 =>
    if den * pow10 start ≤ num then start
    else
      match start with
      | start + 1 => leadingPower num den start fuel
      | 0 => fraction 1 fuel
where
  /-- The search below one: the least power that brings the quotient up to one. -/
  fraction (power : Nat) : Nat → Int
    | 0 => -power
    | fuel + 1 => if den ≤ num * pow10 power then -power else fraction (power + 1) fuel

/-- A multiple `count` of the grid step `10 ^ step`, as a quotient. -/
def gridPoint (count : Nat) (step : Int) : Nat × Nat :=
  match step with
  | .ofNat k => (count * pow10 k, 1)
  | .negSucc k => (count, pow10 (k + 1))

/-- Whether a quotient lies in the interval, whose bounds are quotients over `den`. -/
def Interval.contains (i : Interval) (den : Nat) (p : Nat × Nat) : Bool :=
  if i.closed then i.low * p.2 ≤ p.1 * den && p.1 * den ≤ i.high * p.2
  else i.low * p.2 < p.1 * den && p.1 * den < i.high * p.2

/-- The point of the grid with step `10 ^ step` to write for `num / den`, if one is in the
interval: the nearer of the two neighbours, or the even one in the middle between them. -/
def onGrid (i : Interval) (num den : Nat) (step : Int) : Option Nat :=
  let below :=
    match step with
    | .ofNat k => num / (den * pow10 k)
    | .negSucc k => num * pow10 (k + 1) / den
  let lower := i.contains den (gridPoint below step)
  let upper := i.contains den (gridPoint (below + 1) step)
  match lower, upper with
  | false, false => none
  | true, false => some below
  | false, true => some (below + 1)
  | true, true =>
    let (n, d) := gridPoint (2 * below + 1) step
    if n * den < 2 * num * d then some (below + 1)
    else if n * den = 2 * num * d then some (below + below % 2)
    else some below

/-- The shortest digits of a positive magnitude and the power of ten of the first digit. -/
def digits (x : Binary64) : List Char × Int :=
  let i := interval x
  let scaled := i.value * pow2 x.scale
  let i := { i with low := i.low * pow2 x.scale, value := scaled, high := i.high * pow2 x.scale }
  -- The bounds lie between magnitudes, so that everything is counted in quarters of the unit.
  let den := 4 * pow2 Binary64.unitBits
  let power := leadingPower scaled den 309 700
  let rec grow (count : Nat) : Nat → List Char × Int
    | 0 => (['0'], 0)
    | fuel + 1 =>
      match onGrid i scaled den (power - count) with
      | none => grow (count + 1) fuel
      | some n =>
        let written := Nat.toDigits 10 n
        let shortened := (written.reverse.dropWhile (· == '0')).reverse
        (shortened, power - count + (written.length - 1 : Nat))
  grow 0 18

/-- A decimal point is written for powers of ten from `10 ^ -5` up to here. -/
def positionalLimit : Int := 16

/-- The decimal of a magnitude: positional for moderate sizes, with an exponent otherwise, and
always with a point or an exponent. -/
def text (x : Binary64) : String :=
  if x.mantissa = 0 then "0.0"
  else
    let (ds, power) := digits x
    if -5 ≤ power && power < positionalLimit then
      match power with
      | .negSucc k => "0." ++ "".pushn '0' k ++ String.ofList ds
      | .ofNat k =>
        let whole := ds.take (k + 1)
        let fraction := ds.drop (k + 1)
        String.ofList whole ++ "".pushn '0' (k + 1 - whole.length) ++ "."
          ++ (if fraction.isEmpty then "0" else String.ofList fraction)
    else
      let mantissa :=
        match ds with
        | [] => ""
        | [d] => d.toString
        | d :: rest => d.toString ++ "." ++ String.ofList rest
      let sign := if power < 0 then "-" else "+"
      mantissa ++ "e" ++ sign ++ toString power.natAbs

end SageEditor.Shortest

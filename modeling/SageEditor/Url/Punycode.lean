/-
Punycode: words beyond ASCII in the letters of host names.

* `Punycode.encode` — the encoded form of a label;
* `Punycode.decode?` — the label that an encoded form stands for.

Design notes: the ASCII characters come first and as they are.  The others follow in the order of
their code points, each as its distance from the one before, in a base of 36 digits whose digit
thresholds follow the distances seen so far.  A distance counts code points and places at once, so
that decoding it tells which character is put where.
-/
import SageEditor.Text.Utf8

namespace SageEditor.Punycode

/-- The digits: small letters, then decimal digits. -/
def digit (d : Nat) : Char :=
  if d < 26 then Char.ofNat ('a'.toNat + d) else Char.ofNat ('0'.toNat + (d - 26))

def threshold (k bias : Nat) : Nat :=
  min 26 (max 1 (k - bias))

/-- A distance as digits, from position `k` on. -/
def digitsOf (bias : Nat) (k q : Nat) : List Char :=
  let t := threshold k bias
  if q < t then [digit q]
  else digit (t + (q - t) % (36 - t)) :: digitsOf bias (k + 36) ((q - t) / (36 - t))
termination_by q
decreasing_by
  have h : 1 ≤ threshold k bias := by unfold threshold; omega
  have := Nat.div_le_self (q - threshold k bias) (36 - threshold k bias)
  omega

/-- How often a distance is divided until it is small, as a multiple of 36, and what is left. -/
def damp (delta k : Nat) : Nat × Nat :=
  if 455 < delta then damp (delta / 35) (k + 36) else (delta, k)
termination_by delta

/-- The bias after a distance, where `count` characters are written. -/
def adapt (delta count : Nat) (first : Bool) : Nat :=
  let halved := if first then delta / 700 else delta / 2
  let (delta, k) := damp (halved + halved / count) 0
  k + 36 * delta / (delta + 38)

/-- What has been written, and the state that the next distance depends on. -/
structure State where
  written : List Char
  count : Nat
  delta : Nat
  bias : Nat

/-- Passes one character of the label while code point `n` is written. -/
def pass (basic n : Nat) (st : State) (c : Char) : State :=
  if c.toNat < n then { st with delta := st.delta + 1 }
  else if c.toNat = n then
    { written := st.written ++ digitsOf st.bias 36 st.delta
      count := st.count + 1
      delta := 0
      bias := adapt st.delta (st.count + 1) (st.count == basic) }
  else st

/-- Writes the code points of a list, which lie beyond `last` and are in increasing order. -/
def writeAll (label : List Char) (basic : Nat) : (last : Nat) → List Nat → State → State
  | _, [], st => st
  | last, n :: rest, st =>
    let st := { st with delta := st.delta + (n - last) * (st.count + 1) }
    let st := label.foldl (pass basic n) st
    writeAll label basic (n + 1) rest { st with delta := st.delta + 1 }

def encode (label : List Char) : List Char :=
  let plain := label.filter (·.toNat < 0x80)
  let others := ((label.map Char.toNat).filter (0x80 ≤ ·)).mergeSort.eraseDups
  let start := if plain.isEmpty then [] else plain ++ ['-']
  (writeAll label plain.length 0x80 others ⟨start, plain.length, 0, 72⟩).written

/-! ### Decoding -/

def digitValue? (c : Char) : Option Nat :=
  if 'a' ≤ c && c ≤ 'z' then some (c.toNat - 'a'.toNat)
  else if '0' ≤ c && c ≤ '9' then some (c.toNat - '0'.toNat + 26)
  else none

/-- What has been read: the label so far, the code point and the place where the next distance
begins, and of that distance the digits read, the weight of the next one and its position. -/
structure Reading where
  label : List Char
  codePoint : Nat
  place : Nat
  bias : Nat
  distance : Nat
  weight : Nat
  position : Nat

/-- Before the first distance. -/
def Reading.start (plain : List Char) : Reading :=
  { label := plain, codePoint := 0x80, place := 0, bias := 72,
    distance := 0, weight := 1, position := 36 }

/-- Puts the character that a whole distance stands for into the label. -/
def Reading.insert? (r : Reading) (distance : Nat) : Option Reading :=
  let count := r.label.length + 1
  let total := r.place + distance
  let codePoint := r.codePoint + total / count
  let place := total % count
  if codePoint.isValidChar then
    some { label := r.label.take place ++ Char.ofNat codePoint :: r.label.drop place
           codePoint, place := place + 1, bias := adapt distance count (r.place == 0)
           distance := 0, weight := 1, position := 36 }
  else none

def Reading.digit? (r : Reading) (c : Char) : Option Reading := do
  let d ← digitValue? c
  let t := threshold r.position r.bias
  let distance := r.distance + d * r.weight
  if d < t then r.insert? distance
  else
    let weight := r.weight * (36 - t)
    -- The weights are bounded as numbers of 32 bits are.
    if weight < 0x100000000 then
      some { r with distance, weight, position := r.position + 36 }
    else none

/-- The label that an encoded form in small letters stands for. -/
def decode? (encoded : List Char) : Option (List Char) := do
  let digits := (encoded.reverse.takeWhile (· ≠ '-')).reverse
  let plain := (encoded.take (encoded.length - digits.length)).dropLast
  -- A hyphen with nothing before it separates nothing.
  if plain.isEmpty && digits.length ≠ encoded.length then none
  let last ← digits.foldlM Reading.digit? (.start plain)
  -- A distance that breaks off leaves a digit behind.
  if last.position = 36 then some last.label else none

end SageEditor.Punycode

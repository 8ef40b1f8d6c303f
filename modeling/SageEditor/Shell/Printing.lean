/-
What `echo` and `printf` write.

* `echoText` — the text of words, in which a backslash introduces characters;
* `printfText` — words in a format, together with the problems that were met.

Design notes: a format is used again as long as words are left.  A word that is no number is
written as the number at its start, and reported.
-/
import SageEditor.Decimal.Binary64
import SageEditor.Shell.Arithmetic

namespace SageEditor.Shell

/-! ### Characters after a backslash -/

/-- The character of up to so many octal digits, and the text after them. -/
def octal (most : Nat) (cs : List Char) : Char × List Char :=
  let digits := (cs.take most).takeWhile fun c => '0' ≤ c && c ≤ '7'
  let n := digits.foldl (fun n d => 8 * n + (d.toNat - '0'.toNat)) 0
  (Char.ofNat (n % 256), cs.drop digits.length)

/-- The characters that a backslash and a text stand for, and the rest of the text. -/
def escape (cs : List Char) : List Char × List Char :=
  match cs with
  | 'a' :: rest => (['\x07'], rest)
  | 'b' :: rest => (['\x08'], rest)
  | 'e' :: rest => (['\x1b'], rest)
  | 'f' :: rest => (['\x0c'], rest)
  | 'n' :: rest => (['\n'], rest)
  | 'r' :: rest => (['\r'], rest)
  | 't' :: rest => (['\t'], rest)
  | 'v' :: rest => (['\x0b'], rest)
  | '\\' :: rest => (['\\'], rest)
  | c :: rest =>
    if '0' ≤ c && c ≤ '7' then
      let (d, rest) := octal 3 (c :: rest)
      ([d], rest)
    else (['\\'], c :: rest)
  | [] => (['\\'], [])

/-- Text with its escapes carried out, and whether the output goes on after it. -/
def unescape (read : List Char) : (bound : Nat) → List Char → List Char × Bool
  | 0, _ => (read.reverse, true)
  | _, [] => (read.reverse, true)
  | _, '\\' :: 'c' :: _ => (read.reverse, false)
  | bound + 1, '\\' :: '0' :: rest =>
    let (c, rest) := octal 3 rest
    unescape (c :: read) bound rest
  | bound + 1, '\\' :: rest =>
    let (cs, rest) := escape rest
    unescape (cs.reverse ++ read) bound rest
  | bound + 1, c :: rest => unescape (c :: read) bound rest

def echoText (arguments : List (List Char)) : List Char :=
  let silent := arguments.head? = some ['-', 'n']
  let line := [' '].intercalate (if silent then arguments.drop 1 else arguments)
  match unescape [] (line.length + 1) line with
  | (cs, false) => cs
  | (cs, true) => if silent then cs else cs ++ ['\n']

/-! ### Formats -/

structure Directive where
  flags : List Char
  width : Nat
  precision : Option Nat

namespace Directive

def pad (d : Directive) (cs : List Char) : List Char :=
  let fill := List.replicate (d.width - cs.length) ' '
  if d.flags.contains '-' then cs ++ fill else fill ++ cs

/-- Fills a number up to the width, with zeros after its sign where they are asked for. -/
def padNumber (d : Directive) (zeros : Bool) (front digits : List Char) : List Char :=
  if zeros && d.flags.contains '0' && !d.flags.contains '-' then
    front ++ List.replicate (d.width - front.length - digits.length) '0' ++ digits
  else d.pad (front ++ digits)

/-- Writes a whole number from its sign or mark and its digits. -/
def number (d : Directive) (front digits : List Char) : List Char :=
  d.padNumber d.precision.isNone front
    (List.replicate (d.precision.getD 1 - digits.length) '0' ++ digits)

def sign (d : Directive) (negative : Bool) : List Char :=
  if negative then ['-']
  else if d.flags.contains '+' then ['+']
  else if d.flags.contains ' ' then [' ']
  else []

def signed (d : Directive) (n : Int) : List Char :=
  d.number (d.sign (n < 0)) (Nat.toDigits 10 n.natAbs)

/-- A number as a word of 64 bits, in a base. -/
def unsigned (d : Directive) (base : Nat) (upper : Bool) (n : Int) : List Char :=
  let n := Expression.bits n
  let digits := Nat.toDigits base n
  let digits := if upper then digits.map Char.toUpper else digits
  let front :=
    if d.flags.contains '#' && n != 0 then
      if base = 16 then (if upper then ['0', 'X'] else ['0', 'x'])
      else if base = 8 then ['0'] else []
    else []
  d.number front digits

/-! ### Numbers with a point -/

/-- Digits with a point before the last `places` of them. -/
def pointed (d : Directive) (digits : List Char) (places : Nat) : List Char :=
  let digits := List.replicate (places + 1 - digits.length) '0' ++ digits
  let whole := digits.take (digits.length - places)
  if places = 0 && !d.flags.contains '#' then whole
  else whole ++ '.' :: digits.drop whole.length

/-- A magnitude with a number of places behind the point. -/
def fixed (d : Directive) (x : Binary64) (places : Nat) : List Char :=
  let n := Binary64.divNearest (x.units * pow10 places) (pow2 Binary64.unitBits)
  d.pointed (Nat.toDigits 10 n) places

/-- The digits of a magnitude, one before the point and some behind it, and its decimal
exponent. -/
def scientific (x : Binary64) (places : Nat) : List Char × Int :=
  let one := pow2 Binary64.unitBits
  if x.units = 0 then (List.replicate (places + 1) '0', 0)
  else
    let above := (Nat.toDigits 10 (x.units / one)).length
    let below := (Nat.toDigits 10 (one / x.units)).length
    let low : Int := if one ≤ x.units then (above : Int) - 1
      else if x.units * pow10 below < one * 10 then -(below : Int) else 1 - (below : Int)
    let scaled (e : Int) : Nat :=
      let shift := (places : Int) - e
      if 0 ≤ shift then Binary64.divNearest (x.units * pow10 shift.toNat) one
      else Binary64.divNearest x.units (one * pow10 (-shift).toNat)
    let digits := Nat.toDigits 10 (scaled low)
    if digits.length ≤ places + 1 then (digits, low)
    else (Nat.toDigits 10 (scaled (low + 1)), low + 1)

/-- A magnitude with a decimal exponent. -/
def withExponent (d : Directive) (x : Binary64) (places : Nat) : List Char :=
  let (digits, e) := scientific x places
  let size := Nat.toDigits 10 e.natAbs
  d.pointed digits places ++ ['e', if e < 0 then '-' else '+'] ++
    List.replicate (2 - size.length) '0' ++ size

/-- A magnitude in the shorter of both forms, without zeros at its end. -/
def general (d : Directive) (x : Binary64) (precision : Nat) : List Char :=
  let count := max precision 1
  let e := (scientific x (count - 1)).2
  let positional := -4 ≤ e && e < count
  let shown :=
    if positional then d.fixed x ((count : Int) - 1 - e).toNat else d.withExponent x (count - 1)
  if d.flags.contains '#' || !shown.contains '.' then shown
  else
    let tail := shown.dropWhile (· != 'e')
    let front := (shown.takeWhile (· != 'e')).reverse.dropWhile (· == '0')
    (if front.head? = some '.' then front.drop 1 else front).reverse ++ tail

/-- A number in one of the forms with a point; nothing stands for a magnitude that is too large. -/
def floating (d : Directive) (conversion : Char) (negative : Bool) (x : Option Binary64) :
    List Char :=
  let precision := d.precision.getD 6
  let shown := match x, conversion.toLower with
    | none, _ => "inf".toList
    | some x, 'f' => d.fixed x precision
    | some x, 'e' => d.withExponent x precision
    | some x, _ => d.general x precision
  d.padNumber x.isSome (d.sign negative)
    (if conversion.isUpper then shown.map Char.toUpper else shown)

end Directive

/-- The decimal number at the start of a text as a quotient, and the text after it; nothing if
there is none. -/
def decimalFrom? (cs : List Char) : Option ((Nat × Nat) × List Char) :=
  let whole := cs.takeWhile Char.isDigit
  let (places, rest) := match cs.drop whole.length with
    | '.' :: after => (after.takeWhile Char.isDigit, after.dropWhile Char.isDigit)
    | after => ([], after)
  if whole.isEmpty && places.isEmpty then none
  else
    let largest := 5000
    let (up, down, rest) : Nat × Nat × List Char :=
      match rest with
      | e :: after =>
        let (negative, digits) := match after with
          | '-' :: digits => (true, digits)
          | '+' :: digits => (false, digits)
          | digits => (false, digits)
        let exponent := digits.takeWhile Char.isDigit
        if e.toLower = 'e' && !exponent.isEmpty then
          let n := min largest ((String.ofList exponent).toNat?.getD 0)
          (if negative then 0 else n, if negative then n else 0, digits.drop exponent.length)
        else (0, 0, rest)
      | [] => (0, 0, [])
    let n := (String.ofList (whole ++ places)).toNat?.getD 0
    some ((n * pow10 up, pow10 (places.length + down)), rest)

/-- What writing words in a format has come to. -/
structure Printing where
  /-- What has been written, last character first. -/
  written : List Char
  words : List (List Char)
  problems : List (List Char)
  /-- Whether the output has been ended. -/
  ended : Bool
  /-- Whether the format itself is wrong. -/
  refused : Bool

namespace Printing

def next (p : Printing) : List Char × Printing :=
  (p.words.headD [], { p with words := p.words.drop 1 })

/-- Takes a word that should be a number, which a function reads after the sign: the sign and
the number. -/
def nextValue {α : Type} (zero : α) (ofNat : Nat → α) (read? : List Char → Option (α × List Char))
    (p : Printing) : (Bool × α) × Printing :=
  match p.words with
  | [] => ((false, zero), p)
  | word :: words =>
    let p := { p with words }
    match word with
    | [] => ((false, zero), p)
    | '\'' :: rest | '"' :: rest => ((false, ofNat ((rest.head?.map Char.toNat).getD 0)), p)
    | word =>
      let (negative, ds) :=
        match Expression.trim word with
        | '-' :: ds => (true, ds)
        | '+' :: ds => (false, ds)
        | ds => (false, ds)
      match read? ds with
      | none =>
        ((false, zero),
          { p with problems := (word ++ ": expected numeric value".toList) :: p.problems })
      | some (value, []) => ((negative, value), p)
      | some (value, _) =>
        ((negative, value),
          { p with problems := (word ++ ": not completely converted".toList) :: p.problems })

/-- Takes a word that should be a whole number. -/
def nextNumber (p : Printing) : Int × Printing :=
  let ((negative, n), p) := p.nextValue 0 id fun ds =>
    if ds.head?.any Char.isDigit then some (Expression.numberFrom ds) else none
  (if negative then -(n : Int) else n, p)

/-- Takes a word that should be a number with a point: its sign and its magnitude, or nothing if
that is too large. -/
def nextDecimal (p : Printing) : (Bool × Option Binary64) × Printing :=
  p.nextValue (some Binary64.zero) (fun n => Binary64.round? n 1) fun ds =>
    (decimalFrom? ds).map fun ((num, den), rest) => (Binary64.round? num den, rest)

def add (p : Printing) (cs : List Char) : Printing :=
  { p with written := cs.reverse ++ p.written }

/-- Reads a width or a precision. -/
def amount (p : Printing) (cs : List Char) : Nat × List Char × Printing :=
  match cs with
  | '*' :: rest =>
    let (n, p) := p.nextNumber
    (n.toNat, rest, p)
  | cs =>
    let digits := cs.takeWhile Char.isDigit
    ((String.ofList digits).toNat?.getD 0, cs.drop digits.length, p)

/-- Carries out a conversion; nothing if there is none of its name. -/
def convert (p : Printing) (d : Directive) (conversion : Char) : Option Printing :=
  match conversion with
  | 'd' | 'i' =>
    let (n, p) := p.nextNumber
    some (p.add (d.signed n))
  | 'u' =>
    let (n, p) := p.nextNumber
    some (p.add (d.unsigned 10 false n))
  | 'o' =>
    let (n, p) := p.nextNumber
    some (p.add (d.unsigned 8 false n))
  | 'x' | 'X' =>
    let (n, p) := p.nextNumber
    some (p.add (d.unsigned 16 (conversion == 'X') n))
  | 'f' | 'F' | 'e' | 'E' | 'g' | 'G' =>
    let ((negative, x), p) := p.nextDecimal
    some (p.add (d.floating conversion negative x))
  | 'c' =>
    let (cs, p) := p.next
    some (p.add (d.pad [cs.headD '\x00']))
  | 's' =>
    let (cs, p) := p.next
    some (p.add (d.pad (match d.precision with
      | some n => cs.take n
      | none => cs)))
  | 'b' =>
    let (cs, p) := p.next
    let (cs, goesOn) := unescape [] (cs.length + 1) cs
    some { p.add (d.pad cs) with ended := !goesOn }
  | _ => none

/-- Goes through a format once. -/
def format : (bound : Nat) → List Char → Printing → Printing
  | 0, _, p => p
  | _, [], p => p
  | bound + 1, '%' :: '%' :: rest, p => format bound rest (p.add ['%'])
  | bound + 1, '%' :: rest, p =>
    let flags := rest.takeWhile ['-', '+', ' ', '#', '0'].contains
    let (width, after, p) := p.amount (rest.drop flags.length)
    let (precision, after, p) :=
      match after with
      | '.' :: after =>
        let (n, after, p) := p.amount after
        (some n, after, p)
      | after => (none, after, p)
    let refusal : Printing :=
      let directive := '%' :: rest.take (rest.length - after.length + 1)
      { p with problems := (directive ++ ": invalid directive".toList) :: p.problems
               ended := true, refused := true }
    match after with
    | c :: after =>
      match p.convert ⟨flags, width, precision⟩ c with
      | some p => if p.ended then p else format bound after p
      | none => refusal
    | [] => { refusal with problems := "missing format character".toList :: p.problems }
  | bound + 1, '\\' :: rest, p =>
    let (cs, rest) := escape rest
    format bound rest (p.add cs)
  | bound + 1, c :: rest, p => format bound rest (p.add [c])

/-- Uses a format again as long as words are left. -/
def again (text : List Char) : (bound : Nat) → Printing → Printing
  | 0, p => p
  | bound + 1, p =>
    let q := format (text.length + 1) text p
    if q.ended || q.words.isEmpty || q.words.length = p.words.length then q
    else again text bound q

end Printing

def printfText (format : List Char) (words : List (List Char)) : Printing :=
  Printing.again format (words.length + 1) ⟨[], words, [], false, false⟩

end SageEditor.Shell

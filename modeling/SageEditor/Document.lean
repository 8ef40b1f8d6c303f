/-
Open documents and positions in them.

* `Position`, `Range` — places in a document as editors give them;
* `Document.wordAt` — the word that touches a position, with its range;
* `Document.prefixAt` — the part of a word that ends at a position.

Design notes: a column counts UTF-16 units, and one inside a character stands for its beginning.
The end of a word still touches it.  No word touches a column beyond the end of its line, but
what is to be completed there is the word that ends the line.  Lines and columns have no bound
here.  To count the units of a line in 32 bits is the same on every line of fewer than `2 ^ 32`
units, which is what `scanWord_eq` says.
-/
import SageEditor.Text.Lines
import SageEditor.Text.Units
import SageEditor.Text.Word

namespace SageEditor

/-- A place in a document: a line and a column, both counted from zero. -/
structure Position where
  line : Nat
  character : Nat
deriving DecidableEq, Repr, Inhabited

/-- The stretch between two positions. -/
structure Range where
  start : Position
  stop : Position
deriving DecidableEq, Repr, Inhabited

/-- A word of a document and where it stands. -/
structure Word where
  text : String
  range : Range
deriving DecidableEq, Repr, Inhabited

/-- The number of characters before a column, or nothing beyond the end of the line. -/
def Text.charIndex : List Char → (column : Nat) → Option Nat
  | _, 0 => some 0
  | [], _ + 1 => none
  | c :: rest, column =>
    if column < charUnits16 c then some 0
    else (charIndex rest (column - charUnits16 c)).map (· + 1)

/-- The word characters at the end of a character sequence. -/
def Text.wordEnd (cs : List Char) : List Char :=
  (cs.reverse.takeWhile isWordChar).reverse

/-- The word characters at the start of a character sequence. -/
def Text.wordStart (cs : List Char) : List Char :=
  cs.takeWhile isWordChar

structure Document where
  text : String
deriving DecidableEq, Repr, Inhabited

namespace Document

def line? (d : Document) (n : Nat) : Option (List Char) :=
  (Text.lines d.text.toList)[n]?

/-- The word that touches a position. -/
def wordAt (d : Document) (p : Position) : Option Word := do
  let line ← d.line? p.line
  let index ← Text.charIndex line p.character
  let left := Text.wordEnd (line.take index)
  let right := Text.wordStart (line.drop index)
  if left.isEmpty && right.isEmpty then none
  else
    let start := Text.units16 (line.take (index - left.length))
    let stop := start + Text.units16 (left ++ right)
    some ⟨String.ofList (left ++ right), ⟨p.line, start⟩, ⟨p.line, stop⟩⟩

/-- The part of a word that ends at a position. -/
def prefixAt (d : Document) (p : Position) : String :=
  match d.line? p.line with
  | none => ""
  | some line =>
    let index := (Text.charIndex line p.character).getD line.length
    String.ofList (Text.wordEnd (line.take index))

end Document

end SageEditor

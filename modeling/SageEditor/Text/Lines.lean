/-
Lines of a text.

* `lines` — a line feed ends a line, and a carriage return right before it belongs to the ending;
  a last line without an ending counts, an empty one does not.
-/

namespace SageEditor.Text

/-- Drops the carriage return that belongs to a line ending, from a line given in reverse. -/
def stripReturn : List Char → List Char
  | '\r' :: line => line
  | line => line

/-- The lines of the text, where `line` holds what the current line has so far, in reverse. -/
def linesFrom (line : List Char) : List Char → List (List Char)
  | [] => if line.isEmpty then [] else [line.reverse]
  | '\n' :: rest => (stripReturn line).reverse :: linesFrom [] rest
  | c :: rest => linesFrom (c :: line) rest

/-- The lines of a text, without their endings. -/
def lines (text : List Char) : List (List Char) :=
  linesFrom [] text

end SageEditor.Text

/-
Classes of characters.

* `isAlphanumeric` — letters, marks that count as letters, and numbers of every script;
* `isWordChar` — what identifiers are made of: alphanumeric characters and the underscore;
* `isWhiteSpace` — the Unicode property White_Space.

Design notes: the classes are those of Unicode, so `é`, `中` and `²` are word characters while a
combining accent outside Alphabetic is not.
-/
import SageEditor.Text.Alphabetic
import SageEditor.Text.Numeric

namespace SageEditor.Text

/-- Alphabetic or numeric. -/
def isAlphanumeric (c : Char) : Bool :=
  alphabetic.contains c.toNat || numeric.contains c.toNat

/-- The characters of an identifier. -/
def isWordChar (c : Char) : Bool :=
  isAlphanumeric c || c == '_'

/-- The code points with the property White_Space. -/
def whiteSpace : Ranges := [
  (0x9, 0xd), (0x20, 0x20), (0x85, 0x85), (0xa0, 0xa0), (0x1680, 0x1680), (0x2000, 0x200a),
  (0x2028, 0x2029), (0x202f, 0x202f), (0x205f, 0x205f), (0x3000, 0x3000)]

def isWhiteSpace (c : Char) : Bool :=
  whiteSpace.contains c.toNat

end SageEditor.Text

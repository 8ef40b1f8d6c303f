/-
Bytes as characters.

* `Octets.ofBytes`, `Octets.toBytes` — bytes as the characters of the same numbers, and back.

Design notes: programs that cut text into bytes can so be written with characters.
-/
import SageEditor.Text.Utf8

namespace SageEditor.Text.Octets

/-- Bytes as the characters of the same numbers. -/
def ofBytes (bytes : Bytes) : List Char :=
  bytes.map fun b => Char.ofNat b.toNat

/-- The bytes of characters below 256. -/
def toBytes (cs : List Char) : Bytes :=
  cs.map fun c => UInt8.ofNat c.toNat

/-- The bytes of a text as characters. -/
def ofString (s : String) : List Char := ofBytes (Utf8.encode s)

end SageEditor.Text.Octets

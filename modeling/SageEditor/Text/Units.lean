/-
Lengths of text in the code units of its encodings.

* `units16` — the number of UTF-16 units of a character sequence, in which editors count columns;
* `bytes8` — the number of UTF-8 bytes, in which readers of JSON count columns.

Design notes: these numbers have no bound.  A count of units in 32 bits that fails when it
overflows is `count32`, and it agrees with `units16` up to a line of `2 ^ 32 - 1` units.
-/

namespace SageEditor.Text

/-- The UTF-16 units of one character: two beyond the basic plane. -/
def charUnits16 (c : Char) : Nat :=
  if c.toNat < 0x10000 then 1 else 2

/-- The UTF-16 length of a character sequence. -/
def units16 : List Char → Nat
  | [] => 0
  | c :: rest => charUnits16 c + units16 rest

def bytes8 (cs : List Char) : Nat :=
  cs.foldl (fun n c => n + c.utf8Size) 0

end SageEditor.Text

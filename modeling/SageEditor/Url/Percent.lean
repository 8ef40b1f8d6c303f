/-
Percent encoding.

* `Percent.encode` — text in which some characters are replaced by the bytes of their UTF-8 form,
  each written as a percent sign and two hexadecimal digits;
* `Percent.decode` — the bytes that such a text stands for.

Design notes: which characters are encoded depends on the part of a URL, and each part has its
own set; characters beyond ASCII are encoded everywhere.  Decoding leaves a percent sign alone
that two hexadecimal digits do not follow.
-/
import SageEditor.Json.Reader
import SageEditor.Text.Utf8

namespace SageEditor.Percent

/-- A byte as two upper-case hexadecimal digits. -/
def hexByte (b : UInt8) : List Char :=
  [(Nat.digitChar (b.toNat / 16)).toUpper, (Nat.digitChar (b.toNat % 16)).toUpper]

def encodeChar (c : Char) : List Char :=
  (String.utf8EncodeChar c).flatMap fun b => '%' :: hexByte b

/-- A text in which the characters of a set, and all beyond ASCII, are encoded. -/
def encode (special : Char → Bool) (cs : List Char) : List Char :=
  cs.flatMap fun c => if special c || 0x7f < c.toNat then encodeChar c else [c]

/-! ### The sets of characters that are encoded -/

def isControl (c : Char) : Bool := c < ' ' || c == '\x7f'

/-- In the part behind the hash sign. -/
def inFragment (c : Char) : Bool :=
  isControl c || [' ', '"', '<', '>', '\x60'].contains c

/-- In the part behind the question mark. -/
def inQuery (c : Char) : Bool :=
  isControl c || [' ', '"', '#', '<', '>'].contains c

/-- In the part behind the question mark, where a host is required. -/
def inHostedQuery (c : Char) : Bool :=
  inQuery c || c == '\''

/-- In a path of several steps. -/
def inPath (c : Char) : Bool :=
  inFragment c || ['#', '?', '{', '}'].contains c

/-- In the name and the password of a user. -/
def inUser (c : Char) : Bool :=
  inPath c || ['/', ':', ';', '=', '@', '[', '\\', ']', '^', '|'].contains c

/-! ### Decoding -/

/-- The bytes of a text, in which two hexadecimal digits behind a percent sign give a byte. -/
def decode : List Char → Text.Bytes
  | [] => []
  | '%' :: a :: b :: rest =>
    match Json.Read.hexValue? a, Json.Read.hexValue? b with
    | some x, some y => UInt8.ofNat (16 * x + y) :: decode rest
    | _, _ => 0x25 :: decode (a :: b :: rest)
  | c :: rest => String.utf8EncodeChar c ++ decode rest

end SageEditor.Percent

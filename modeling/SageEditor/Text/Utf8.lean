/-
UTF-8 as bytes.

* `encode` — the bytes of a text;
* `decode?` — the text of bytes that are well-formed UTF-8;
* `decodeLossy` — a text for any bytes, in which each maximal ill-formed part becomes `U+FFFD`.

Design notes: both readers share one automaton over bytes.  A lead byte fixes how many
continuation bytes follow and which range the first of them has to lie in, which rules out
overlong forms, surrogates and values past `U+10FFFF`; a byte that does not fit closes the
ill-formed part and is read again as a lead byte.
-/

namespace SageEditor.Text

/-- A sequence of bytes: the content of a file, or a path. -/
abbrev Bytes := List UInt8

namespace Utf8

def encode (s : String) : Bytes :=
  s.toList.flatMap String.utf8EncodeChar

/-- What the automaton has read of the current character: nothing, or a `value` that needs
`needed` more bytes, the next of them between `low` and `high`. -/
inductive State where
  | start
  | within (needed value low high : Nat)

/-- Reads a byte at the start of a character: the characters that end here, `none` for an
ill-formed part, and the state after it. -/
def lead (b : Nat) : List (Option Char) × State :=
  if b < 0x80 then ([some (Char.ofNat b)], .start)
  else if b < 0xc2 then ([none], .start)
  else if b < 0xe0 then ([], .within 1 (b - 0xc0) 0x80 0xbf)
  else if b < 0xf0 then
    ([], .within 2 (b - 0xe0) (if b = 0xe0 then 0xa0 else 0x80) (if b = 0xed then 0x9f else 0xbf))
  else if b < 0xf5 then
    ([], .within 3 (b - 0xf0) (if b = 0xf0 then 0x90 else 0x80) (if b = 0xf4 then 0x8f else 0xbf))
  else ([none], .start)

def feed (st : State) (b : Nat) : List (Option Char) × State :=
  match st with
  | .start => lead b
  | .within needed value low high =>
    if low ≤ b && b ≤ high then
      let value := value * 64 + (b - 0x80)
      if needed ≤ 1 then ([some (Char.ofNat value)], .start)
      else ([], .within (needed - 1) value 0x80 0xbf)
    else
      -- The part before this byte is ill-formed, and the byte may begin a character.
      let (read, next) := lead b
      (none :: read, next)

/-- The characters of the bytes, `none` for each maximal ill-formed part. -/
def decodeFrom : State → Bytes → List (Option Char)
  | .start, [] => []
  | .within .., [] => [none]
  | st, b :: rest =>
    let (read, next) := feed st b.toNat
    read ++ decodeFrom next rest

def decode? (bytes : Bytes) : Option String :=
  ((decodeFrom .start bytes).mapM id).map String.ofList

/-- The text of any bytes. -/
def decodeLossy (bytes : Bytes) : String :=
  String.ofList ((decodeFrom .start bytes).map (·.getD '\ufffd'))

end Utf8

end SageEditor.Text

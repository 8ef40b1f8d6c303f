/-
What can be wrong with a JSON text.

* `Mismatch` — a well-formed value that is not of the wanted kind;
* `Fault` — every cause for which a reader refuses a text;
* `ReadError` — a cause and its place, with its `message`.

Design notes: causes are data and have their wording in one place each.  A place is a line,
counted from 1, and the number of bytes of UTF-8 that were read on it.
-/
import SageEditor.Json.Basic
import SageEditor.Text.Quoted
import SageEditor.Text.Units

namespace SageEditor.Json

/-- What stands where a value of another kind is wanted. -/
inductive Unexpected where
  | null
  | bool (b : Bool)
  | number (n : Number)
  | string (s : String)
  | sequence
  | map
deriving DecidableEq, Repr

def Unexpected.describe : Unexpected → String
  | .null => "null"
  | .bool b => s!"boolean \x60{b}\x60"
  | .number n@(.double ..) => s!"floating point \x60{n.text}\x60"
  | .number n => s!"integer \x60{n.text}\x60"
  | .string s => s!"string {Text.quoted s}"
  | .sequence => "sequence"
  | .map => "map"

def Unexpected.ofJson : Json → Unexpected
  | .null => .null
  | .bool b => .bool b
  | .number n => .number n
  | .string s => .string s
  | .array _ => .sequence
  | .object _ => .map

/-- Why a value is not of the wanted kind. -/
inductive Mismatch where
  | invalidType (got : Unexpected) (want : String)
  | invalidValue (got : Unexpected) (want : String)
  | invalidLength (length : Nat) (want : String)
  | missingField (name : String)
  | duplicateField (name : String)
  /-- The value has none of the alternative forms of the named type. -/
  | noAlternative (name : String)
  /-- The name is none of those that there is a choice of. -/
  | unknownVariant (name : String) (choices : List String)
  /-- The text is refused by the rules of what it should denote. -/
  | refused (reason text : String)
deriving DecidableEq, Repr

/-- A name as messages show it. -/
def backquoted (name : String) : String := s!"\x60{name}\x60"

def choiceText : List String → String
  | [] => "nothing"
  | [a] => backquoted a
  | [a, b] => s!"{backquoted a} or {backquoted b}"
  | names => "one of " ++ ", ".intercalate (names.map backquoted)

def Mismatch.message : Mismatch → String
  | .invalidType got want => s!"invalid type: {got.describe}, expected {want}"
  | .invalidValue got want => s!"invalid value: {got.describe}, expected {want}"
  | .invalidLength length want => s!"invalid length {length}, expected {want}"
  | .missingField name => s!"missing field \x60{name}\x60"
  | .duplicateField name => s!"duplicate field \x60{name}\x60"
  | .noAlternative name => s!"data did not match any variant of untagged enum {name}"
  | .unknownVariant name choices =>
    s!"unknown variant {backquoted name}, expected {choiceText choices}"
  | .refused reason text => s!"{reason}: {Text.quoted text}"

inductive Fault where
  | endInValue
  | endInList
  | endInObject
  | endInString
  | expectedValue
  | expectedIdent
  | expectedColon
  | expectedListComma
  | expectedObjectComma
  | keyNotString
  | trailingComma
  | trailingCharacters
  | invalidNumber
  | numberOutOfRange
  | invalidEscape
  | endInHexEscape
  | loneSurrogate
  | controlCharacter
  | tooDeep
  | mismatch (m : Mismatch)
deriving DecidableEq, Repr

def Fault.message : Fault → String
  | .endInValue => "EOF while parsing a value"
  | .endInList => "EOF while parsing a list"
  | .endInObject => "EOF while parsing an object"
  | .endInString => "EOF while parsing a string"
  | .expectedValue => "expected value"
  | .expectedIdent => "expected ident"
  | .expectedColon => "expected \x60:\x60"
  | .expectedListComma => "expected \x60,\x60 or \x60]\x60"
  | .expectedObjectComma => "expected \x60,\x60 or \x60\x7d\x60"
  | .keyNotString => "key must be a string"
  | .trailingComma => "trailing comma"
  | .trailingCharacters => "trailing characters"
  | .invalidNumber => "invalid number"
  | .numberOutOfRange => "number out of range"
  | .invalidEscape => "invalid escape"
  | .endInHexEscape => "unexpected end of hex escape"
  | .loneSurrogate => "lone leading surrogate in hex escape"
  | .controlCharacter => "control character (\\u0000-\\u001F) found while parsing a string"
  | .tooDeep => "recursion limit exceeded"
  | .mismatch m => m.message

/-- A cause and how many bytes of the text lie behind its place. -/
structure Failure where
  fault : Fault
  behind : Nat
deriving DecidableEq, Repr

def Failure.before (rest : List Char) (fault : Fault) : Failure :=
  ⟨fault, Text.bytes8 rest⟩

/-- A failure one byte into the rest of the text, or at its end. -/
def Failure.into (rest : List Char) (fault : Fault) : Failure :=
  ⟨fault, Text.bytes8 rest - 1⟩

structure ReadError where
  fault : Fault
  line : Nat
  column : Nat
deriving DecidableEq, Repr

def ReadError.message (e : ReadError) : String :=
  s!"{e.fault.message} at line {e.line} column {e.column}"

/-- The line and the column that `bytes` bytes of a text reach. -/
def placeAfter (line column bytes : Nat) : List Char → Nat × Nat
  | [] => (line, column)
  | c :: rest =>
    if bytes = 0 then (line, column)
    else if c == '\n' then placeAfter (line + 1) 0 (bytes - 1) rest
    else
      -- The place may lie inside a character of several bytes.
      let size := min c.utf8Size bytes
      placeAfter line (column + size) (bytes - size) rest

def Failure.locate (text : List Char) (f : Failure) : ReadError :=
  let (line, column) := placeAfter 1 0 (Text.bytes8 text - f.behind) text
  ⟨f.fault, line, column⟩

end SageEditor.Json

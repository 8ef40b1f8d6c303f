/-
Reading JSON with comments.

* `Jsonc.parse` — the value of a text, or nothing if the text holds only blanks and comments;
* `Reading.step` — what reading one token does.

Design notes: the reader is a machine that takes one token at a time.  Its state is the bracket
it is in and the brackets around that one, so it needs no recursion on the nesting.  Commas
between items and members may be left out, and one may follow the last of them.  A name may be
a string, a word or a number; of members with one name the last one counts.  A number that is
too large is kept as a string.
-/
import SageEditor.Jsonc.Token

namespace SageEditor.Jsonc

/-- A bracket around the current one, waiting for the value that is being read. An opening
bracket is known by how many characters there are from it on. -/
inductive Outer where
  | array (opening : Nat) (items : List Json)
  | object (opening : Nat) (members : Json.Object) (name : String)

/-- What is being read. Items are kept in reverse; `comma` tells whether a comma may follow. -/
inductive Stage where
  | root
  | array (opening : Nat) (items : List Json) (comma : Bool)
  | object (opening : Nat) (members : Json.Object) (comma : Bool)
  | colon (opening : Nat) (members : Json.Object) (name : String)
  | member (opening : Nat) (members : Json.Object) (name : String)
  | finished (v : Json)

/-- A state of the reader: what is being read, and the brackets around it, innermost first. -/
structure Reading where
  stage : Stage
  outer : List Outer

namespace Reading

def start : Reading := ⟨.root, []⟩

/-- Hands a complete value to the bracket that waits for it. -/
def deliver (v : Json) : List Outer → Reading
  | [] => ⟨.finished v, []⟩
  | .array opening items :: outer => ⟨.array opening (v :: items) true, outer⟩
  | .object opening members name :: outer =>
    ⟨.object opening (members.insert name v) true, outer⟩

def numberValue (spelling : String) (n : Json.Numeral) : Json :=
  match n.number with
  | .ok x => .number x
  | .error _ => .string spelling

/-- Begins a value with a token that has `behind` characters from it on. -/
def beginValue (outer : List Outer) (behind : Nat) : Token → Except Failure Reading
  | .openBrace => .ok ⟨.object behind [] false, outer⟩
  | .openBracket => .ok ⟨.array behind [] false, outer⟩
  | .string s => .ok (deliver (.string s) outer)
  | .bool b => .ok (deliver (.bool b) outer)
  | .null => .ok (deliver .null outer)
  | .number spelling n => .ok (deliver (numberValue spelling n) outer)
  | .closeBrace => .error ⟨.unexpectedCloseBrace, behind⟩
  | .closeBracket => .error ⟨.unexpectedCloseBracket, behind⟩
  | .comma => .error ⟨.unexpectedComma, behind⟩
  | .colon => .error ⟨.unexpectedColon, behind⟩
  | .word _ => .error ⟨.unexpectedWord, behind⟩

/-- Reads a token that has `behind` characters from it on. -/
def step (r : Reading) (behind : Nat) (t : Token) : Except Failure Reading :=
  match r.stage, t with
  | .root, t => beginValue r.outer behind t
  | .array opening items true, .comma => .ok ⟨.array opening items false, r.outer⟩
  | .array _ items _, .closeBracket => .ok (deliver (.array items.reverse) r.outer)
  | .array opening items _, t => beginValue (.array opening items :: r.outer) behind t
  | .object opening members true, .comma => .ok ⟨.object opening members false, r.outer⟩
  | .object _ members _, .closeBrace => .ok (deliver (.object members) r.outer)
  -- Whatever begins a member may follow the last one without a comma.
  | .object opening members _, .string name => .ok ⟨.colon opening members name, r.outer⟩
  | .object opening members _, .word name => .ok ⟨.colon opening members name, r.outer⟩
  | .object opening members _, .number name _ => .ok ⟨.colon opening members name, r.outer⟩
  | .object .., _ => .error ⟨.unexpectedInObject, behind⟩
  | .colon opening members name, .colon => .ok ⟨.member opening members name, r.outer⟩
  | .colon .., _ => .error ⟨.expectedColon, behind⟩
  | .member opening members name, t =>
    beginValue (.object opening members name :: r.outer) behind t
  | .finished _, _ => .error ⟨.severalValues, behind⟩

/-- The value at the end of the text. -/
def finish (r : Reading) : Except Failure (Option Json) :=
  match r.stage with
  | .root => .ok none
  | .array opening .. => .error ⟨.unterminatedArray, opening⟩
  | .object opening .. => .error ⟨.unterminatedObject, opening⟩
  | .colon .. => .error ⟨.expectedColon, 0⟩
  | .member .. => .error ⟨.expectedValue, 0⟩
  | .finished v => .ok (some v)

/-- Reads the tokens of a text from a state on. -/
def run (r : Reading) (cs : List Char) : Except Failure (Option Json) :=
  match Scan.next cs with
  | .error e => .error e
  | .ok none => r.finish
  | .ok (some (behind, t, rest)) =>
    match r.step behind t with
    | .error e => .error e
    -- A token is never empty, so that the condition always holds.
    | .ok r => if _h : rest.length < cs.length then run r rest else r.finish
termination_by cs.length

end Reading

def parse (text : String) : Except SyntaxError (Option Json) :=
  let cs := text.toList
  (Reading.start.run cs).mapError (·.locate cs)

end SageEditor.Jsonc

/-
Tokens of JSON with comments.

* `Token` — what such a text consists of besides blanks and comments;
* `Scan.next` — the first token of a text, where it begins and what follows it;
* `Fault`, `SyntaxError` — what can be wrong with a text, and where.

Design notes: blanks are all characters that are White_Space.  A string stands between double or
between single quotes and may hold line ends; a word is any other run of letters, digits and
hyphens, up to a blank or a colon.  Places count lines and characters from one.
-/
import SageEditor.Json.Numeral
import SageEditor.Json.Reader
import SageEditor.Text.Word

namespace SageEditor.Jsonc

inductive Fault where
  | unexpectedToken
  | unterminatedComment
  | unterminatedString
  | invalidEscape
  /-- A quote of the kind that does not end the string is escaped. -/
  | invalidEscapeIn (double : Bool)
  | expectedHexDigits
  | invalidCodePoint (digits : String)
  | expectedDigitAfterSign
  | expectedDigit
  | expectedSignOrDigit
  | unexpectedCloseBracket
  | unexpectedCloseBrace
  | unexpectedComma
  | unexpectedColon
  | unexpectedWord
  | unexpectedInObject
  | unterminatedObject
  | unterminatedArray
  | expectedColon
  | expectedValue
  | severalValues
deriving DecidableEq, Repr

def Fault.message : Fault → String
  | unexpectedToken => "Unexpected token"
  | unterminatedComment => "Unterminated comment block"
  | unterminatedString => "Unterminated string literal"
  | invalidEscape => "Invalid escape"
  | invalidEscapeIn true => "Invalid escape in double quote string"
  | invalidEscapeIn false => "Invalid escape in single quote string"
  | expectedHexDigits => "Expected four hex digits"
  | invalidCodePoint digits =>
    s!"Invalid unicode escape sequence. '{digits}' is not a valid UTF8 character"
  | expectedDigitAfterSign => "Expected digit following negative sign"
  | expectedDigit => "Expected digit"
  | expectedSignOrDigit => "Expected plus, minus, or digit in number literal"
  | unexpectedCloseBracket => "Unexpected close bracket"
  | unexpectedCloseBrace => "Unexpected close brace"
  | unexpectedComma => "Unexpected comma"
  | unexpectedColon => "Unexpected colon"
  | unexpectedWord => "Unexpected word"
  | unexpectedInObject => "Unexpected token in object"
  | unterminatedObject => "Unterminated object"
  | unterminatedArray => "Unterminated array"
  | expectedColon => "Expected colon after the string or word in object property"
  | expectedValue => "Expected value after colon in object property"
  | severalValues => "Text cannot contain more than one JSON value"

/-- A cause and how many characters of the text follow its place. -/
structure Failure where
  fault : Fault
  behind : Nat
deriving DecidableEq, Repr

structure SyntaxError where
  fault : Fault
  line : Nat
  column : Nat
deriving DecidableEq, Repr

def SyntaxError.message (e : SyntaxError) : String :=
  s!"{e.fault.message} on line {e.line} column {e.column}"

def Failure.locate (text : List Char) (f : Failure) : SyntaxError :=
  let before := text.take (text.length - f.behind)
  let line := before.reverse.takeWhile (· != '\n')
  ⟨f.fault, before.count '\n' + 1, line.length + 1⟩

def Failure.before (rest : List Char) (fault : Fault) : Failure :=
  ⟨fault, rest.length⟩

/-- A part of a text that is neither blank nor a comment. -/
inductive Token where
  | openBrace
  | closeBrace
  | openBracket
  | closeBracket
  | comma
  | colon
  | string (s : String)
  | word (s : String)
  | bool (b : Bool)
  | null
  /-- A number as it is written, and what it denotes. -/
  | number (spelling : String) (n : Json.Numeral)
deriving DecidableEq, Repr

namespace Scan

/-! ### Blanks and comments -/

/-- What stands between tokens. -/
inductive Gap where
  | blank
  /-- A comment that ends with its line. -/
  | lineComment
  /-- A comment between delimiters. -/
  | blockComment

/-- Passes over blanks and comments, starting inside of `gap`; `start` is what a block comment
began with. -/
def skipFrom (gap : Gap) (start cs : List Char) : Except Failure (List Char) :=
  match gap, cs with
  | .blockComment, [] => .error (.before start .unterminatedComment)
  | _, [] => .ok []
  | .blank, '/' :: '/' :: rest => skipFrom .lineComment start rest
  | .blank, '/' :: '*' :: rest => skipFrom .blockComment ('/' :: '*' :: rest) rest
  | .blank, c :: rest => if Text.isWhiteSpace c then skipFrom .blank start rest else .ok (c :: rest)
  | .lineComment, '\n' :: rest => skipFrom .blank start rest
  | .lineComment, '\r' :: '\n' :: rest => skipFrom .blank start rest
  | .lineComment, _ :: rest => skipFrom .lineComment start rest
  | .blockComment, '*' :: '/' :: rest => skipFrom .blank start rest
  | .blockComment, _ :: rest => skipFrom .blockComment start rest

/-- The text after blanks and comments. -/
def skip (cs : List Char) : Except Failure (List Char) :=
  skipFrom .blank [] cs

/-! ### Strings -/

/-- The character of an escape with a code point. -/
def codePoint? (n : Nat) : Option Char :=
  if h : n.isValidChar then some (Char.ofNatAux n h) else none

/-- Reads a string up to its closing quote; `read` holds what was read, in reverse, and `start`
is the text from the opening quote on. -/
def stringRest (double : Bool) (start read : List Char) :
    List Char → Except Failure (String × List Char)
  | [] => .error (.before start .unterminatedString)
  | '\\' :: 'u' :: a :: b :: c :: d :: rest =>
    let escape := '\\' :: 'u' :: a :: b :: c :: d :: rest
    match Json.Read.hexValues? a b c d with
    | none => .error (.before escape .expectedHexDigits)
    | some n =>
      match codePoint? n with
      | none => .error (.before escape (.invalidCodePoint (String.ofList [a, b, c, d])))
      | some ch => stringRest double start (ch :: read) rest
  | '\\' :: 'u' :: rest => .error (.before ('\\' :: 'u' :: rest) .expectedHexDigits)
  | '\\' :: c :: rest =>
    if c = '"' && !double || c = '\'' && double then
      .error (.before ('\\' :: c :: rest) (.invalidEscapeIn double))
    else
      -- A quote that could not end the string was refused above.
      match if c = '\'' then some c else Json.Read.plainEscape? c with
      | some ch => stringRest double start (ch :: read) rest
      | none => .error (.before ('\\' :: c :: rest) .invalidEscape)
  | c :: rest =>
    if c = (if double then '"' else '\'') then .ok (String.ofList read.reverse, rest)
    else stringRest double start (c :: read) rest

/-! ### Numbers and words -/

def number (cs : List Char) : Except Failure (Token × List Char) :=
  match Json.Numeral.scan cs with
  | .ok (n, rest) => .ok (.number (String.ofList (cs.take (cs.length - rest.length))) n, rest)
  | .error (missing, rest) =>
    .error (.before rest (match missing with
      | .ofWhole => .expectedDigitAfterSign
      | .ofFraction | .ofExponent true => .expectedDigit
      | .ofExponent false => .expectedSignOrDigit))

/-- The text after a fixed word, if the word stands there on its own. -/
def literal? (word cs : List Char) : Option (List Char) :=
  -- What begins like the word and goes on is another word.
  if word.isPrefixOf cs && !(cs.drop word.length).head?.any Text.isAlphanumeric then
    some (cs.drop word.length)
  else none

def endsWord (c : Char) : Bool :=
  Text.isWhiteSpace c || c == ':'

/-- Reads a word that is not quoted. -/
def word (cs : List Char) : Except Failure (Token × List Char) :=
  let name := cs.takeWhile (!endsWord ·)
  if name.isEmpty || !name.all fun c => Text.isAlphanumeric c || c == '-' then
    .error (.before cs .unexpectedToken)
  else .ok (.word (String.ofList name), cs.dropWhile (!endsWord ·))

/-- Reads a fixed word, a number or any other word. -/
def plain (cs : List Char) : Except Failure (Token × List Char) :=
  if cs.head?.any fun c => c == '-' || c.isDigit then number cs
  else
    match literal? ['t', 'r', 'u', 'e'] cs with
    | some rest => .ok (.bool true, rest)
    | none =>
      match literal? ['f', 'a', 'l', 's', 'e'] cs with
      | some rest => .ok (.bool false, rest)
      | none =>
        match literal? ['n', 'u', 'l', 'l'] cs with
        | some rest => .ok (.null, rest)
        | none => word cs

def token (cs : List Char) : Except Failure (Token × List Char) :=
  match cs with
  | '{' :: rest => .ok (.openBrace, rest)
  | '}' :: rest => .ok (.closeBrace, rest)
  | '[' :: rest => .ok (.openBracket, rest)
  | ']' :: rest => .ok (.closeBracket, rest)
  | ',' :: rest => .ok (.comma, rest)
  | ':' :: rest => .ok (.colon, rest)
  | '"' :: rest => do
    let (s, rest) ← stringRest true cs [] rest
    return (.string s, rest)
  | '\'' :: rest => do
    let (s, rest) ← stringRest false cs [] rest
    return (.string s, rest)
  | '/' :: _ => .error (.before cs .unexpectedToken)
  | cs => plain cs

/-- The first token of a text, together with how many characters there are from its first one on,
and the text that follows it. -/
def next (cs : List Char) : Except Failure (Option (Nat × Token × List Char)) := do
  match ← skip cs with
  | [] => return none
  | cs =>
    let (t, rest) ← token cs
    return some (cs.length, t, rest)

end Scan

end SageEditor.Jsonc

/-
Reading JSON text.

* `Reader` — a reader consumes the start of a text and returns what follows;
* `Read.value` — any JSON value, nested at most `Read.maxDepth` deep;
* `Read.stringRest`, `Read.items`, `Read.members` — the parts from which readers of particular
  shapes are built;
* `Read.skip` — steps over a value without keeping it;
* `Reader.run`, `parse` — reads a whole text.

Design notes: the loops over items and members take the reader of one item as an argument, so
that `value` recurses on the depth alone.  Every item takes at least one character, so the length
of the text bounds their number.  `skip` keeps its open brackets on a list and has no limit on
depth; it checks neither the range of numbers nor the pairing of surrogates.
-/
import SageEditor.Json.Error
import SageEditor.Json.Numeral

namespace SageEditor.Json

/-- Consumes the start of a text and returns what was read and the rest. -/
abbrev Reader (α : Type) := List Char → Except Failure (α × List Char)

namespace Read

def isBlank (c : Char) : Bool :=
  c == ' ' || c == '\n' || c == '\t' || c == '\r'

def skipBlanks (cs : List Char) : List Char :=
  cs.dropWhile isBlank

/-! ### Words and numbers -/

/-- Consumes the rest of a fixed word. -/
def word (wanted : List Char) : Reader Unit := fun cs =>
  match wanted, cs with
  | [], cs => .ok ((), cs)
  | _ :: _, [] => .error (.before [] .endInValue)
  | w :: wanted, c :: rest =>
    if c = w then word wanted rest else .error (.into (c :: rest) .expectedIdent)

/-- Consumes a numeral. A missing digit at the end of the text is reported as `atEnd`. -/
def numeral (atEnd : Fault) : Reader Numeral := fun cs =>
  match Numeral.scan cs with
  | .error (_, []) => .error (.before [] atEnd)
  | .error (_, rest) => .error (.into rest .invalidNumber)
  | .ok (n, c :: rest) =>
    -- A digit behind a numeral can only follow a leading zero.
    if c.isDigit then .error (.into (c :: rest) .invalidNumber) else .ok (n, c :: rest)
  | .ok (n, []) => .ok (n, [])

def number : Reader Number := fun cs => do
  let (n, rest) ← numeral .endInValue cs
  match n.number with
  | .ok value => return (value, rest)
  | .error unread => throw ⟨.numberOutOfRange, unread.length + Text.bytes8 rest⟩

/-! ### Strings -/

def hexValue? (c : Char) : Option Nat :=
  if c.isDigit then some (c.toNat - '0'.toNat)
  else if 'a' ≤ c && c ≤ 'f' then some (c.toNat - 'a'.toNat + 10)
  else if 'A' ≤ c && c ≤ 'F' then some (c.toNat - 'A'.toNat + 10)
  else none

def hexValues? (a b c d : Char) : Option Nat := do
  return (((← hexValue? a) * 16 + (← hexValue? b)) * 16 + (← hexValue? c)) * 16 + (← hexValue? d)

/-- The character of a one-letter escape. -/
def plainEscape? : Char → Option Char
  | '"' => some '"'
  | '\\' => some '\\'
  | '/' => some '/'
  | 'b' => some '\x08'
  | 'f' => some '\x0c'
  | 'n' => some '\n'
  | 'r' => some '\r'
  | 't' => some '\t'
  | _ => none

/-- Why no four hexadecimal digits could be read: there are not four bytes left, or they are
other characters. -/
def hexFailure (rest : List Char) : Failure :=
  if Text.bytes8 rest < 4 then .before [] .endInString
  else ⟨.invalidEscape, Text.bytes8 rest - 4⟩

/-- Why a high surrogate is not followed by a second escape. -/
def pairFailure (rest : List Char) : Failure :=
  match rest with
  | [] | ['\\'] => .before [] .endInString
  | '\\' :: rest => .into rest .endInHexEscape
  | rest => .into rest .endInHexEscape

/-- Consumes a string after its opening quote. `read` holds what was read, in reverse. -/
def stringRest (read : List Char) : Reader String
  | [] => .error (.before [] .endInString)
  | '"' :: rest => .ok (String.ofList read.reverse, rest)
  | '\\' :: 'u' :: a :: b :: c :: d :: rest =>
    match hexValues? a b c d with
    | none => .error (hexFailure (a :: b :: c :: d :: rest))
    | some high =>
      -- Beyond the basic plane a character is two escapes, of which the high surrogate comes first.
      if 0xdc00 ≤ high && high < 0xe000 then .error (.before rest .loneSurrogate)
      else if 0xd800 ≤ high && high < 0xdc00 then
        match rest with
        | '\\' :: 'u' :: e :: f :: g :: h :: rest =>
          match hexValues? e f g h with
          | none => .error (hexFailure (e :: f :: g :: h :: rest))
          | some low =>
            if 0xdc00 ≤ low && low < 0xe000 then
              let code := 0x10000 + (high - 0xd800) * 0x400 + (low - 0xdc00)
              stringRest (Char.ofNat code :: read) rest
            else .error (.before rest .loneSurrogate)
        | '\\' :: 'u' :: rest => .error (hexFailure rest)
        | rest => .error (pairFailure rest)
      else stringRest (Char.ofNat high :: read) rest
  | ['\\'] => .error (.before [] .endInString)
  | '\\' :: 'u' :: rest => .error (hexFailure rest)
  | '\\' :: c :: rest =>
    match plainEscape? c with
    | some escaped => stringRest (escaped :: read) rest
    | none => .error (.into (c :: rest) .invalidEscape)
  | c :: rest =>
    if c < ' ' then .error (.before rest .controlCharacter) else stringRest (c :: read) rest

/-- Steps over a string after its opening quote; surrogates need not be paired. -/
def skipStringRest : Reader Unit
  | [] => .error (.before [] .endInString)
  | '"' :: rest => .ok ((), rest)
  | '\\' :: 'u' :: a :: b :: c :: d :: rest =>
    match hexValues? a b c d with
    | none => .error (hexFailure (a :: b :: c :: d :: rest))
    | some _ => skipStringRest rest
  | ['\\'] => .error (.before [] .endInString)
  | '\\' :: 'u' :: rest => .error (hexFailure rest)
  | '\\' :: c :: rest =>
    match plainEscape? c with
    | some _ => skipStringRest rest
    | none => .error (.into (c :: rest) .invalidEscape)
  | c :: rest =>
    if c < ' ' then .error (.before (c :: rest) .controlCharacter) else skipStringRest rest

/-! ### Lists and objects -/

/-- Looks for the next item of a list: whether there is one, and the text from it or from the
closing bracket on. Only the first item has no comma before it. -/
def nextItem (first : Bool) : Reader Bool := fun cs =>
  match skipBlanks cs with
  | [] => .error (.before [] .endInList)
  | ']' :: rest => .ok (false, ']' :: rest)
  | c :: rest =>
    if first then .ok (true, c :: rest)
    else if c = ',' then
      match skipBlanks rest with
      | [] => .error (.before [] .endInValue)
      | ']' :: rest => .error (.into (']' :: rest) .trailingComma)
      | rest => .ok (true, rest)
    else .error (.into (c :: rest) .expectedListComma)

/-- Looks for the next member of an object: whether there is one, and the text after the opening
quote of its name or from the closing brace on. -/
def nextName (first : Bool) : Reader Bool := fun cs =>
  match skipBlanks cs with
  | [] => .error (.before [] .endInObject)
  | '}' :: rest => .ok (false, '}' :: rest)
  | c :: rest =>
    if first then
      if c = '"' then .ok (true, rest) else .error (.into (c :: rest) .keyNotString)
    else if c = ',' then
      match skipBlanks rest with
      | [] => .error (.before [] .endInValue)
      | '"' :: rest => .ok (true, rest)
      | '}' :: rest => .error (.into ('}' :: rest) .trailingComma)
      | rest => .error (.into rest .keyNotString)
    else .error (.into (c :: rest) .expectedObjectComma)

def colon : Reader Unit := fun cs =>
  match skipBlanks cs with
  | [] => .error (.before [] .endInObject)
  | ':' :: rest => .ok ((), rest)
  | rest => .error (.into rest .expectedColon)

/-- Tries to consume the end of a list. The text returned is what is left in either case. -/
def closeList (cs : List Char) : Except Failure Unit × List Char :=
  match skipBlanks cs with
  | [] => (.error (.before [] .endInList), [])
  | ']' :: rest => (.ok (), rest)
  | ',' :: rest =>
    -- A comma is looked behind only to tell a trailing one from anything else.
    match skipBlanks rest with
    | ']' :: rest => (.error (.into (']' :: rest) .trailingComma), ']' :: rest)
    | rest => (.error (.into rest .trailingCharacters), rest)
  | rest => (.error (.into rest .trailingCharacters), rest)

def closeObject (cs : List Char) : Except Failure Unit × List Char :=
  match skipBlanks cs with
  | [] => (.error (.before [] .endInObject), [])
  | '}' :: rest => (.ok (), rest)
  | ',' :: rest => (.error (.into (',' :: rest) .trailingComma), ',' :: rest)
  | rest => (.error (.into rest .trailingCharacters), rest)

/-- Reads at most `bound` more items with `read`; `acc` holds the items so far, in reverse. -/
def itemsFrom {α : Type} (read : Reader α) (first : Bool) (acc : List α) :
    (bound : Nat) → Reader (List α)
  | 0, _ => .error (.before [] .endInList)
  | bound + 1, cs => do
    match ← nextItem first cs with
    | (false, rest) => return (acc.reverse, rest)
    | (true, rest) =>
      let (a, rest) ← read rest
      itemsFrom read false (a :: acc) bound rest

/-- Reads a list after its opening bracket. -/
def items {α : Type} (read : Reader α) : Reader (List α) := fun cs => do
  let (all, rest) ← itemsFrom read true [] (cs.length + 1) cs
  match closeList rest with
  | (.ok (), rest) => return (all, rest)
  | (.error e, _) => throw e

/-- Reads at most `bound` more members, whose values `read` consumes. -/
def membersFrom (read : Reader Json) (first : Bool) (acc : Object) :
    (bound : Nat) → Reader Object
  | 0, _ => .error (.before [] .endInObject)
  | bound + 1, cs => do
    match ← nextName first cs with
    | (false, rest) => return (acc, rest)
    | (true, rest) =>
      let (name, rest) ← stringRest [] rest
      let ((), rest) ← colon rest
      let (v, rest) ← read rest
      membersFrom read false (acc.insert name v) bound rest

/-- Reads an object after its opening brace. -/
def members (read : Reader Json) : Reader Object := fun cs => do
  let (all, rest) ← membersFrom read true [] (cs.length + 1) cs
  match closeObject rest with
  | (.ok (), rest) => return (all, rest)
  | (.error e, _) => throw e

/-! ### Values -/

/-- Consumes a word, a number or a string; nothing if the text starts with something else. -/
def scalar? (cs : List Char) : Option (Except Failure (Json × List Char)) :=
  match cs with
  | 'n' :: rest => some ((word ['u', 'l', 'l'] rest).map fun (_, r) => (.null, r))
  | 't' :: rest => some ((word ['r', 'u', 'e'] rest).map fun (_, r) => (.bool true, r))
  | 'f' :: rest => some ((word ['a', 'l', 's', 'e'] rest).map fun (_, r) => (.bool false, r))
  | '"' :: rest => some ((stringRest [] rest).map fun (s, r) => (.string s, r))
  | c :: _ =>
    if c = '-' || c.isDigit then some ((number cs).map fun (n, r) => (.number n, r)) else none
  | [] => none

def maxDepth : Nat := 127

/-- Consumes a value, in which lists and objects are nested at most `depth` deep. -/
def value : (depth : Nat) → Reader Json
  | depth, cs =>
    let cs := skipBlanks cs
    match cs, depth with
    | [], _ => .error (.before [] .endInValue)
    | '[' :: _, 0 | '{' :: _, 0 => .error (.into cs .tooDeep)
    | '[' :: rest, depth + 1 => (items (value depth) rest).map fun (xs, r) => (.array xs, r)
    | '{' :: rest, depth + 1 => (members (value depth) rest).map fun (o, r) => (.object o, r)
    | cs, _ => (scalar? cs).getD (.error (.into cs .expectedValue))

/-- An open bracket that a skipped value is in. -/
inductive Bracket where
  | list
  | object
deriving DecidableEq, Repr

/-- Steps over a scalar; nothing if the text starts with something else. -/
def skipScalar? (cs : List Char) : Option (Except Failure (List Char)) :=
  match cs with
  | 'n' :: rest => some ((word ['u', 'l', 'l'] rest).map (·.2))
  | 't' :: rest => some ((word ['r', 'u', 'e'] rest).map (·.2))
  | 'f' :: rest => some ((word ['a', 'l', 's', 'e'] rest).map (·.2))
  | '"' :: rest => some ((skipStringRest rest).map (·.2))
  | c :: _ =>
    if c = '-' || c.isDigit then some ((numeral .invalidNumber cs).map (·.2)) else none
  | [] => none

def skipName (cs : List Char) : Except Failure (List Char) := do
  match skipBlanks cs with
  | [] => throw (.before [] .endInObject)
  | '"' :: rest =>
    let ((), rest) ← skipStringRest rest
    let ((), rest) ← colon rest
    return rest
  | rest => throw (.into rest .keyNotString)

/-- Where a skipped value stands: before a value, or inside its innermost bracket, where a comma
is allowed unless nothing has followed the bracket. -/
inductive SkipStage where
  | atValue
  | inside (comma : Bool)

/-- Steps over values until the brackets of `stack` are closed, in at most `bound` steps. -/
def skipFrom (stage : SkipStage) (stack : List Bracket) : (bound : Nat) → Reader Unit
  | 0, _ => .error (.before [] .endInValue)
  | bound + 1, cs =>
    let cs := skipBlanks cs
    match stage, stack with
    | .atValue, stack =>
      match cs with
      | [] => .error (.before [] .endInValue)
      | '[' :: rest => skipFrom (.inside false) (.list :: stack) bound rest
      | '{' :: rest => skipFrom (.inside false) (.object :: stack) bound rest
      | cs => do
        let rest ← (skipScalar? cs).getD (.error (.into cs .expectedValue))
        if stack.isEmpty then return ((), rest) else skipFrom (.inside true) stack bound rest
    -- All brackets are closed, so the value has ended.
    | .inside _, [] => .ok ((), cs)
    | .inside comma, bracket :: outer =>
      let enter (cs : List Char) : Except Failure (Unit × List Char) := do
        let cs ← if bracket = .object then skipName cs else .ok cs
        skipFrom .atValue stack bound cs
      let leave (rest : List Char) : Except Failure (Unit × List Char) :=
        if outer.isEmpty then .ok ((), rest) else skipFrom (.inside true) outer bound rest
      match bracket, cs with
      | .list, [] => .error (.before [] .endInList)
      | .object, [] => .error (.before [] .endInObject)
      | .list, ']' :: rest => leave rest
      | .object, '}' :: rest => leave rest
      | bracket, c :: rest =>
        if !comma then enter (c :: rest)
        else if c = ',' then enter rest
        else
          let fault := if bracket = .list then .expectedListComma else .expectedObjectComma
          .error (.into (c :: rest) fault)

def skip : Reader Unit := fun cs =>
  -- No more than two steps for a character: one that allows a value and one that begins it.
  skipFrom .atValue [] (2 * cs.length + 2) cs

end Read

/-- Reads a whole text: nothing but blanks may follow. -/
def Reader.run {α : Type} (read : Reader α) (text : String) : Except ReadError α :=
  let cs := text.toList
  match read cs with
  | .error e => .error (e.locate cs)
  | .ok (a, rest) =>
    match Read.skipBlanks rest with
    | [] => .ok a
    | rest => .error (Failure.locate cs (.into rest .trailingCharacters))

def parse (text : String) : Except ReadError Json :=
  Reader.run (Read.value Read.maxDepth) text

end SageEditor.Json

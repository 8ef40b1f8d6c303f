/-
Conditions on texts, numbers and files.

* `Condition.holds` — the outcome of `test`, or what is wrong with its words.

Design notes: three words with an operator between two others are always a comparison, so that
operands may look like operators.  Otherwise the words form an expression of primaries, negations
and parentheses, where "and" binds closer than "or".
-/
import SageEditor.File.System
import SageEditor.Shell.Arithmetic
import SageEditor.Shell.State

namespace SageEditor.Shell.Condition

open Program (pathOf)

abbrev Words := List (List Char)

/-- A result with the words that are left, or what is wrong. -/
abbrev Outcome := Except (List Char) (Bool × Words)

/-- Whether a word stands between two operands. -/
def isBinary (w : List Char) : Bool :=
  ["=", "!=", "<", ">", "-eq", "-ne", "-lt", "-le", "-gt", "-ge", "-nt", "-ot", "-ef"].contains
    (String.ofList w)

/-- Whether a word stands before an operand. -/
def isUnary (w : List Char) : Bool :=
  match w with
  | ['-', c] => "nzefdsrwxhLpSbctugkOG".toList.contains c
  | _ => false

def number (w : List Char) : Except (List Char) Int :=
  let fault : Except (List Char) Int := .error ("Illegal number: ".toList ++ w)
  let blank (c : Char) : Bool := c == ' ' || c == '\t' || c == '\n'
  let body := ((w.dropWhile blank).reverse.dropWhile blank).reverse
  let (negative, ds) :=
    match body with
    | '-' :: ds => (true, ds)
    | '+' :: ds => (false, ds)
    | ds => (false, ds)
  if ds.isEmpty || !ds.all Char.isDigit then fault
  else
    let n : Int := Expression.ofDigits 10 (Expression.digits 10 ds)
    .ok (if negative then -n else n)

def compare (operator a b : List Char) : Except (List Char) Bool := do
  match String.ofList operator with
  | "=" => return a == b
  | "!=" => return a != b
  | "<" => return a < b
  | ">" => return b < a
  | "-nt" | "-ot" | "-ef" => return false
  | other =>
    let m ← number a
    let n ← number b
    match other with
    | "-eq" => return m == n
    | "-ne" => return m != n
    | "-lt" => return m < n
    | "-le" => return m ≤ n
    | "-gt" => return n < m
    | _ => return n ≤ m

/-- What an operator before a word says about it. -/
def check (files : FileSystem) (operator : Char) (w : List Char) : Bool :=
  let found := (files.find (pathOf w)).toOption.map (·.2)
  match operator with
  | 'n' => !w.isEmpty
  | 'z' => w.isEmpty
  | 'e' => found.isSome
  | 'f' => found.any (!·.isDirectory)
  | 'd' => found.any Node.isDirectory
  | 's' => found.any fun n => n.isDirectory || 0 < n.size
  | 'r' => found.any (files.grants .reading)
  | 'w' => found.any (files.grants .writing)
  | 'x' => found.any fun n =>
    if files.privileged then n.isDirectory || n.mode &&& 0o111 != 0 else files.grants .entering n
  | 'O' | 'G' => found.isSome
  | _ => false

/-- The message for a word that does not fit. -/
def problem (w : List Char) (text : String) : List Char := w ++ ": ".toList ++ text.toList

mutual

def alternatives (files : FileSystem) : (bound : Nat) → Words → Outcome
  | 0, ws => .ok (false, ws)
  | bound + 1, ws => do
    let (x, ws) ← conjunction files bound ws
    match ws with
    | ['-', 'o'] :: ws =>
      let (y, ws) ← alternatives files bound ws
      return (x || y, ws)
    | ws => return (x, ws)

/-- Reads what has to hold together. -/
def conjunction (files : FileSystem) : (bound : Nat) → Words → Outcome
  | 0, ws => .ok (false, ws)
  | bound + 1, ws => do
    let (x, ws) ← negation files bound ws
    match ws with
    | ['-', 'a'] :: ws =>
      let (y, ws) ← conjunction files bound ws
      return (x && y, ws)
    | ws => return (x, ws)

/-- Reads a primary or the negation of one. -/
def negation (files : FileSystem) : (bound : Nat) → Words → Outcome
  | 0, ws => .ok (false, ws)
  | bound + 1, ws =>
    match ws with
    | ['!'] :: w :: ws => do
      let (x, ws) ← negation files bound (w :: ws)
      return (!x, ws)
    | ws => primary files bound ws

def primary (files : FileSystem) : (bound : Nat) → Words → Outcome
  | 0, ws => .ok (false, ws)
  | bound + 1, ws =>
    match ws with
    | [] => .ok (false, [])
    | [w] => .ok (!w.isEmpty, [])
    | ['('] :: ws => do
      let (x, ws) ← alternatives files bound ws
      match ws with
      | [')'] :: ws => return (x, ws)
      | _ => throw "closing paren expected".toList
    | a :: operator :: ws =>
      match isBinary operator, ws with
      | true, b :: ws => do return (← compare operator a b, ws)
      | true, [] => .error (problem operator "argument expected")
      | false, ws =>
        if isUnary a then .ok (check files (a.getD 1 'n') operator, ws)
        else .ok (!a.isEmpty, operator :: ws)

end

def holds (files : FileSystem) (ws : Words) : Except (List Char) Bool := do
  match ws with
  | [a, operator, b] => if isBinary operator then return ← compare operator a b
  | _ => pure ()
  let (x, left) ← alternatives files (4 * ws.length + 4) ws
  if left.isEmpty then return x
  else throw (problem (ws.getD (ws.length - left.length - 1) []) "unexpected operator")

end SageEditor.Shell.Condition

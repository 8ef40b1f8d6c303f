/-
Arithmetic in shell words.

* `Expression` — expressions over variables;
* `Expression.read` — the expression of a text;
* `Expression.evaluate` — its value, together with the values that it assigns.

Design notes: values are whole numbers of 64 bits, which wrap.  Operators are read by their
precedence; a side that does not count is not evaluated.
-/
import SageEditor.Shell.Syntax

namespace SageEditor.Shell

inductive BinaryOperator where
  | times | over | modulo | plus | minus | shiftLeft | shiftRight
  | less | lessEqual | greater | greaterEqual | equal | unequal
  | bitAnd | bitXor | bitOr
deriving DecidableEq, Repr

inductive Expression where
  | number (n : Int)
  | variable (name : List Char)
  | negate (e : Expression)
  | complement (e : Expression)
  | isZero (e : Expression)
  | binary (o : BinaryOperator) (a b : Expression)
  | both (a b : Expression)
  | either (a b : Expression)
  | choose (condition yes no : Expression)
  /-- Assigns a value, combined with the old one if there is an operator. -/
  | assign (name : List Char) (o : Option BinaryOperator) (e : Expression)
deriving Repr, Inhabited

namespace Expression

/-! ### Reading -/

def trim (cs : List Char) : List Char :=
  cs.dropWhile fun c => c == ' ' || c == '\t' || c == '\n'

def digit? (c : Char) : Option Nat :=
  if c.isDigit then some (c.toNat - '0'.toNat)
  else if 'a' ≤ c && c ≤ 'f' then some (c.toNat - 'a'.toNat + 10)
  else if 'A' ≤ c && c ≤ 'F' then some (c.toNat - 'A'.toNat + 10)
  else none

/-- The digits of a base at the start of a text. -/
def digits (base : Nat) (cs : List Char) : List Nat :=
  (cs.map digit?).takeWhile (·.any (· < base)) |>.filterMap id

def ofDigits (base : Nat) (ds : List Nat) : Nat :=
  ds.foldl (fun n d => base * n + d) 0

def largest : Nat := 0x7fffffffffffffff

/-- The number at the start of a text, which is hexadecimal after `0x` and octal after `0`, and
what follows it. -/
def numberFrom (cs : List Char) : Nat × List Char :=
  let read (base : Nat) (skipped : Nat) (ds : List Char) : Nat × List Char :=
    let found := digits base ds
    (min largest (ofDigits base found), cs.drop (skipped + found.length))
  match cs with
  | '0' :: 'x' :: ds | '0' :: 'X' :: ds =>
    if (digits 16 ds).isEmpty then (0, cs.drop 1) else read 16 2 ds
  | '0' :: ds => read 8 1 ds
  | ds => read 10 0 ds

/-- The value of a text that has to be a number. -/
def numberOf? (cs : List Char) : Option Int :=
  let cs := trim cs
  let (negative, ds) :=
    match cs with
    | '-' :: ds => (true, ds)
    | '+' :: ds => (false, ds)
    | ds => (false, ds)
  if ds.head?.any Char.isDigit then
    match numberFrom ds with
    | (n, rest) => if (trim rest).isEmpty then some (if negative then -n else n) else none
  else if (trim cs).isEmpty then some 0
  else none

/-- The operator at the start of a text with its precedence. -/
def binary? (cs : List Char) : Option (BinaryOperator × Nat × List Char) :=
  let unlessAssigned (o : BinaryOperator) (p : Nat) (rest : List Char) :
      Option (BinaryOperator × Nat × List Char) :=
    if rest.head? = some '=' then none else some (o, p, rest)
  match cs with
  | '<' :: '<' :: rest => unlessAssigned .shiftLeft 8 rest
  | '>' :: '>' :: rest => unlessAssigned .shiftRight 8 rest
  | '<' :: '=' :: rest => some (.lessEqual, 7, rest)
  | '>' :: '=' :: rest => some (.greaterEqual, 7, rest)
  | '=' :: '=' :: rest => some (.equal, 6, rest)
  | '!' :: '=' :: rest => some (.unequal, 6, rest)
  | '<' :: rest => some (.less, 7, rest)
  | '>' :: rest => some (.greater, 7, rest)
  | '&' :: '&' :: _ | '|' :: '|' :: _ => none
  | '*' :: rest => unlessAssigned .times 10 rest
  | '/' :: rest => unlessAssigned .over 10 rest
  | '%' :: rest => unlessAssigned .modulo 10 rest
  | '+' :: rest => unlessAssigned .plus 9 rest
  | '-' :: rest => unlessAssigned .minus 9 rest
  | '&' :: rest => unlessAssigned .bitAnd 5 rest
  | '^' :: rest => unlessAssigned .bitXor 4 rest
  | '|' :: rest => unlessAssigned .bitOr 3 rest
  | _ => none

/-- The assignment operator at the start of a text. -/
def assignment? (cs : List Char) : Option (Option BinaryOperator × List Char) :=
  match cs with
  | '=' :: '=' :: _ => none
  | '=' :: rest => some (none, rest)
  | '<' :: '<' :: '=' :: rest => some (some .shiftLeft, rest)
  | '>' :: '>' :: '=' :: rest => some (some .shiftRight, rest)
  | '*' :: '=' :: rest => some (some .times, rest)
  | '/' :: '=' :: rest => some (some .over, rest)
  | '%' :: '=' :: rest => some (some .modulo, rest)
  | '+' :: '=' :: rest => some (some .plus, rest)
  | '-' :: '=' :: rest => some (some .minus, rest)
  | '&' :: '=' :: rest => some (some .bitAnd, rest)
  | '^' :: '=' :: rest => some (some .bitXor, rest)
  | '|' :: '=' :: rest => some (some .bitOr, rest)
  | _ => none

mutual

def operand (bound : Nat) (cs : List Char) : Except String (Expression × List Char) :=
  match bound with
  | 0 => .error "expecting primary"
  | bound + 1 =>
    match trim cs with
    | '(' :: rest => do
      let (e, rest) ← assigned bound rest
      match trim rest with
      | ')' :: rest => return (e, rest)
      | _ => throw "expecting ')'"
    | '-' :: rest => do
      let (e, rest) ← operand bound rest
      return (.negate e, rest)
    | '+' :: rest => operand bound rest
    | '~' :: rest => do
      let (e, rest) ← operand bound rest
      return (.complement e, rest)
    | '!' :: rest => do
      let (e, rest) ← operand bound rest
      return (.isZero e, rest)
    | c :: rest =>
      if c.isDigit then
        let (n, rest) := numberFrom (c :: rest)
        .ok (.number n, rest)
      else if isNameStart c then
        .ok (.variable ((c :: rest).takeWhile isNameChar), (c :: rest).dropWhile isNameChar)
      else .error "expecting primary"
    | [] => .error "expecting primary"

/-- Reads operators of at least some precedence behind a value. -/
def binaryFrom (least bound : Nat) (e : Expression) (cs : List Char) :
    Except String (Expression × List Char) :=
  match bound with
  | 0 => .ok (e, cs)
  | bound + 1 =>
    match binary? (trim cs) with
    | none => .ok (e, cs)
    | some (o, precedence, rest) =>
      if precedence < least then .ok (e, cs)
      else do
        let (b, rest) ← operand bound rest
        let (b, rest) ← binaryFrom (precedence + 1) bound b rest
        binaryFrom least bound (.binary o e b) rest

/-- Reads values that have to hold together. -/
def conjunction (bound : Nat) (cs : List Char) : Except String (Expression × List Char) :=
  match bound with
  | 0 => .error "expecting primary"
  | bound + 1 => do
    let (e, rest) ← operand bound cs
    let (e, rest) ← binaryFrom 0 bound e rest
    match trim rest with
    | '&' :: '&' :: rest =>
      let (b, rest) ← conjunction bound rest
      return (.both e b, rest)
    | _ => return (e, rest)

/-- Reads values one of which has to hold. -/
def disjunction (bound : Nat) (cs : List Char) : Except String (Expression × List Char) :=
  match bound with
  | 0 => .error "expecting primary"
  | bound + 1 => do
    let (e, rest) ← conjunction bound cs
    match trim rest with
    | '|' :: '|' :: rest =>
      let (b, rest) ← disjunction bound rest
      return (.either e b, rest)
    | _ => return (e, rest)

/-- Reads a choice between values. -/
def chosen (bound : Nat) (cs : List Char) : Except String (Expression × List Char) :=
  match bound with
  | 0 => .error "expecting primary"
  | bound + 1 => do
    let (e, rest) ← disjunction bound cs
    match trim rest with
    | '?' :: rest =>
      let (yes, rest) ← assigned bound rest
      match trim rest with
      | ':' :: rest =>
        let (no, rest) ← chosen bound rest
        return (.choose e yes no, rest)
      | _ => throw "expecting ':'"
    | _ => return (e, rest)

/-- Reads an assignment or another expression. -/
def assigned (bound : Nat) (cs : List Char) : Except String (Expression × List Char) :=
  match bound with
  | 0 => .error "expecting primary"
  | bound + 1 =>
    let cs := trim cs
    let name := cs.takeWhile isNameChar
    match if isName name then assignment? (trim (cs.drop name.length)) else none with
    | some (o, rest) => do
      let (e, rest) ← assigned bound rest
      return (.assign name o e, rest)
    | none => chosen bound cs

end

def read (cs : List Char) : Except String Expression := do
  let (e, rest) ← assigned (8 * cs.length + 8) cs
  if (trim rest).isEmpty then return e else throw "expecting EOF"

/-! ### Evaluating -/

/-- Why an expression has no value. -/
inductive Failure where
  | divisionByZero
  /-- A variable holds something else. -/
  | noNumber (text : List Char)
  /-- A variable does not exist, and none is taken for zero. -/
  | unset (name : List Char)
deriving DecidableEq, Repr

/-- A number of 64 bits. -/
def wrap (n : Int) : Int := n.bmod 0x10000000000000000

/-- A number with so many binary zeros behind it. -/
def shifted (a : Int) (n : Nat) : Int := a * (1 <<< n : Nat)

/-- A number as a word of 64 bits. -/
def bits (n : Int) : Nat := (n.emod 0x10000000000000000).toNat

def BinaryOperator.apply (o : BinaryOperator) (a b : Int) : Except Failure Int :=
  let truth (p : Bool) : Int := if p then 1 else 0
  match o with
  | .times => .ok (wrap (a * b))
  | .over => if b = 0 then .error .divisionByZero else .ok (wrap (a.tdiv b))
  | .modulo => if b = 0 then .error .divisionByZero else .ok (a.tmod b)
  | .plus => .ok (wrap (a + b))
  | .minus => .ok (wrap (a - b))
  | .shiftLeft => .ok (wrap (shifted a (bits b % 64)))
  | .shiftRight => .ok (a.fdiv (shifted 1 (bits b % 64)))
  | .less => .ok (truth (a < b))
  | .lessEqual => .ok (truth (a ≤ b))
  | .greater => .ok (truth (b < a))
  | .greaterEqual => .ok (truth (b ≤ a))
  | .equal => .ok (truth (a == b))
  | .unequal => .ok (truth (a != b))
  | .bitAnd => .ok (wrap (bits a &&& bits b : Nat))
  | .bitXor => .ok (wrap (bits a ^^^ bits b : Nat))
  | .bitOr => .ok (wrap (bits a ||| bits b : Nat))

/-- What an expression assigns, last value first. -/
abbrev Assigned := List (List Char × Int)

/-- The value of an expression; `value?` gives the texts of variables and `strict` tells whether
all of them have to exist. -/
def evaluate (value? : List Char → Option (List Char)) (strict : Bool) :
    Expression → Assigned → Except Failure (Int × Assigned)
  | .number n, done => .ok (n, done)
  | .variable name, done => do return (← lookUp name done, done)
  | .negate e, done => do
    let (n, done) ← evaluate value? strict e done
    return (wrap (-n), done)
  | .complement e, done => do
    let (n, done) ← evaluate value? strict e done
    return (-n - 1, done)
  | .isZero e, done => do
    let (n, done) ← evaluate value? strict e done
    return (if n = 0 then 1 else 0, done)
  | .binary o a b, done => do
    let (m, done) ← evaluate value? strict a done
    let (n, done) ← evaluate value? strict b done
    return (← BinaryOperator.apply o m n, done)
  | .both a b, done => do
    let (m, done) ← evaluate value? strict a done
    if m = 0 then return (0, done)
    let (n, done) ← evaluate value? strict b done
    return (if n = 0 then 0 else 1, done)
  | .either a b, done => do
    let (m, done) ← evaluate value? strict a done
    if m ≠ 0 then return (1, done)
    let (n, done) ← evaluate value? strict b done
    return (if n = 0 then 0 else 1, done)
  | .choose c yes no, done => do
    let (n, done) ← evaluate value? strict c done
    if n ≠ 0 then evaluate value? strict yes done else evaluate value? strict no done
  | .assign name o e, done => do
    let (n, done) ← evaluate value? strict e done
    let n ← match o with
      | none => pure n
      | some o => BinaryOperator.apply o (← lookUp name done) n
    return (n, (name, n) :: done)
where
  /-- The value of a variable, which may have been assigned before. -/
  lookUp (name : List Char) (done : Assigned) : Except Failure Int :=
    match done.lookup name with
    | some n => .ok n
    | none =>
      match value? name with
      | none => if strict then .error (.unset name) else .ok 0
      | some text =>
        match numberOf? text with
        | some n => .ok n
        | none => .error (.noNumber text)

end Expression

end SageEditor.Shell

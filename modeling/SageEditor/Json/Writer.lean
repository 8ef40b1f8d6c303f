/-
Writing JSON text.

* `Json.compact` — without any blanks;
* `Json.pretty` — one item or member a line, indented by two blanks for each level.

Design notes: every writer puts its text in front of a given rest, so that a whole text is built
in one pass and a statement about a part of it can speak of what follows.  Members are written in
the order in which the object lists them.
-/
import SageEditor.Json.Basic

namespace SageEditor.Json

namespace Write

/-- The two lower-case hexadecimal digits of a small number. -/
def hexPair (n : Nat) : List Char :=
  [Nat.digitChar (n / 16), Nat.digitChar (n % 16)]

/-- One character of a string: quotes, backslashes and control characters are escaped. -/
def escape (c : Char) (rest : List Char) : List Char :=
  match c with
  | '"' => '\\' :: '"' :: rest
  | '\\' => '\\' :: '\\' :: rest
  | '\x08' => '\\' :: 'b' :: rest
  | '\t' => '\\' :: 't' :: rest
  | '\n' => '\\' :: 'n' :: rest
  | '\x0c' => '\\' :: 'f' :: rest
  | '\r' => '\\' :: 'r' :: rest
  | c => if c < ' ' then '\\' :: 'u' :: '0' :: '0' :: (hexPair c.toNat ++ rest) else c :: rest

/-- A string between its quotes. -/
def string (s : String) (rest : List Char) : List Char :=
  '"' :: s.toList.foldr escape ('"' :: rest)

mutual

/-- A value without blanks. -/
def value : Json → List Char → List Char
  | .null, rest => 'n' :: 'u' :: 'l' :: 'l' :: rest
  | .bool true, rest => 't' :: 'r' :: 'u' :: 'e' :: rest
  | .bool false, rest => 'f' :: 'a' :: 'l' :: 's' :: 'e' :: rest
  | .number n, rest => n.text.toList ++ rest
  | .string s, rest => string s rest
  | .array [], rest => '[' :: ']' :: rest
  | .array (x :: xs), rest => '[' :: value x (itemsAfter xs (']' :: rest))
  | .object [], rest => '{' :: '}' :: rest
  | .object ((name, v) :: ms), rest =>
    '{' :: string name (':' :: value v (membersAfter ms ('}' :: rest)))

/-- Further items, each after a comma. -/
def itemsAfter : List Json → List Char → List Char
  | [], rest => rest
  | x :: xs, rest => ',' :: value x (itemsAfter xs rest)

def membersAfter : List (String × Json) → List Char → List Char
  | [], rest => rest
  | (name, v) :: ms, rest => ',' :: string name (':' :: value v (membersAfter ms rest))

end

def newline (level : Nat) (rest : List Char) : List Char :=
  '\n' :: (List.replicate (2 * level) ' ' ++ rest)

mutual

/-- A value over several lines, the first of them already indented. -/
def lines (level : Nat) : Json → List Char → List Char
  | .array (x :: xs), rest =>
    '[' :: newline (level + 1)
      (lines (level + 1) x (itemLines (level + 1) xs (newline level (']' :: rest))))
  | .object ((name, v) :: ms), rest =>
    '{' :: newline (level + 1)
      (string name (':' :: ' ' ::
        lines (level + 1) v (memberLines (level + 1) ms (newline level ('}' :: rest)))))
  | v, rest => value v rest

def itemLines (level : Nat) : List Json → List Char → List Char
  | [], rest => rest
  | x :: xs, rest => ',' :: newline level (lines level x (itemLines level xs rest))

def memberLines (level : Nat) : List (String × Json) → List Char → List Char
  | [], rest => rest
  | (name, v) :: ms, rest =>
    ',' :: newline level (string name (':' :: ' ' :: lines level v (memberLines level ms rest)))

end

end Write

def compact (v : Json) : String :=
  String.ofList (Write.value v [])

def pretty (v : Json) : String :=
  String.ofList (Write.lines 0 v [])

def quote (s : String) : String :=
  String.ofList (Write.string s [])

end SageEditor.Json

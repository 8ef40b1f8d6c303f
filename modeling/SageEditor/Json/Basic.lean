/-
JSON values.

* `Json` — a value; the members of an object are kept in the order of their names, one per name;
* `Json.Object` — the members of an object, with `get?`, `insert` and `ofList`;
* `Json.Number` — whole numbers of 64 bits as they are, all others in binary floating point.

Design notes: names are ordered by their bytes in UTF-8, which is the order of their code points.
Inserting keeps the order and replaces the value of a name that is already there, so the last of
several members with one name is the one that counts.
-/
import SageEditor.Decimal.Shortest

namespace SageEditor

inductive Json.Number where
  /-- A whole number below `2 ^ 64`. -/
  | natural (n : Nat)
  /-- The whole number `-n`, with `0 < n ≤ 2 ^ 63`. -/
  | negative (n : Nat)
  | double (minus : Bool) (magnitude : Binary64)
deriving DecidableEq, Repr, Inhabited

inductive Json where
  | null
  | bool (b : Bool)
  | number (n : Json.Number)
  | string (s : String)
  | array (items : List Json)
  | object (members : List (String × Json))
deriving Repr, Inhabited, BEq

namespace Json

/-- The members of an object, in the order of their names. -/
abbrev Object := List (String × Json)

namespace Object

def get? : Object → String → Option Json
  | [], _ => none
  | (key, value) :: rest, name => if name = key then some value else get? rest name

/-- Sets a member: in its place if the name is there, else where the order puts it. -/
def insert : Object → String → Json → Object
  | [], name, value => [(name, value)]
  | (key, old) :: rest, name, value =>
    if name < key then (name, value) :: (key, old) :: rest
    else if name = key then (key, value) :: rest
    else (key, old) :: insert rest name value

/-- The object with the given members, where a later one replaces an earlier one. -/
def ofList (members : List (String × Json)) : Object :=
  members.foldl (fun o m => o.insert m.1 m.2) []

end Object

def Number.text : Number → String
  | .natural n => toString n
  | .negative n => "-" ++ toString n
  | .double minus x => (if minus then "-" else "") ++ Shortest.text x

/-- A natural number below `2 ^ 64` as a JSON value. -/
def ofNat (n : Nat) : Json := .number (.natural n)

def ofInt : Int → Json
  | .ofNat n => .number (.natural n)
  | .negSucc n => .number (.negative (n + 1))

/-- The member of an object; nothing for any other value. -/
def member? (value : Json) (name : String) : Option Json :=
  match value with
  | .object members => Object.get? members name
  | _ => none

def string? : Json → Option String
  | .string s => some s
  | _ => none

/-- An object from its members in any order. -/
def mkObject (members : List (String × Json)) : Json :=
  .object (Object.ofList members)

end Json

end SageEditor

/-
Reading values of a fixed shape out of JSON values.

* `Decoder` — the value of a shape, or how the JSON value differs from it;
* `Decode.text`, `Decode.flag`, `Decode.natural32`, `Decode.integer32`, `Decode.decimal32`,
  `Decode.variant`, `Decode.list`, `Decode.dictionary`, `Decode.option`, `Decode.anyOf` — the
  basic shapes;
* `Decode.record` — the members of a record, each with its shape;
* `Decode.sideBySide` — several records whose members stand in one object.

Design notes: the members of an object are looked at in the order of their names, so of two
members that differ from their shapes the one with the smaller name is reported, and a member
that is missing is reported last.  A record may also be given as the list of its members.  Where
records stand side by side they are looked at one after the other, and a list is no way to give
them.
-/
import SageEditor.Json.Error

namespace SageEditor.Json

/-- Reads a JSON value as a value of some shape. -/
abbrev Decoder (α : Type) := Json → Except Mismatch α

namespace Decode

/-- The mismatch of a value where something else is wanted. -/
def differs {α : Type} (v : Json) (want : String) : Except Mismatch α :=
  .error (.invalidType (.ofJson v) want)

def any : Decoder Json := .ok

def text : Decoder String
  | .string s => .ok s
  | v => differs v "a string"

def flag : Decoder Bool
  | .bool b => .ok b
  | v => differs v "a boolean"

/-- A whole number from zero up to a limit. -/
def natural (limit : Nat) (want : String) : Decoder Nat
  | .number (.natural n) =>
    if n ≤ limit then .ok n else .error (.invalidValue (.number (.natural n)) want)
  | .number (.negative n) => .error (.invalidValue (.number (.negative n)) want)
  | v => differs v want

def natural32 : Decoder Nat := natural 0xffffffff "u32"

def integer32 : Decoder Int
  | .number (.natural n) =>
    if n < 0x80000000 then .ok n else .error (.invalidValue (.number (.natural n)) "i32")
  | .number (.negative n) =>
    if n ≤ 0x80000000 then .ok (-n) else .error (.invalidValue (.number (.negative n)) "i32")
  | v => differs v "i32"

/-- A number of any kind. -/
def decimal32 : Decoder Unit
  | .number _ => .ok ()
  | v => differs v "f32"

/-- One of several names, alone or as the name of an empty member. -/
def variant (choices : List String) : Decoder Unit
  | .string name =>
    if choices.contains name then .ok () else .error (.unknownVariant name choices)
  | .object [(name, v)] =>
    if !choices.contains name then .error (.unknownVariant name choices)
    else if v matches .null then .ok ()
    else differs v "unit"
  | .object _ => .error (.invalidValue .map "map with a single key")
  | v => differs v "string or map"

/-- Only whether the value has the shape. -/
def check {α : Type} (d : Decoder α) : Decoder Unit := fun v => (d v).map fun _ => ()

/-- A value of one of several shapes, which together have a name. -/
def anyOf (name : String) (shapes : List (Decoder Unit)) : Decoder Unit := fun v =>
  if shapes.any fun d => (d v).isOk then .ok () else .error (.noAlternative name)

def list {α : Type} (d : Decoder α) : Decoder (List α)
  | .array xs => xs.mapM d
  | v => differs v "a sequence"

/-- An object whose members all have one shape, with a shape for their names. -/
def dictionary (describe : String) (key : String → Except Mismatch Unit) (d : Decoder Unit) :
    Decoder Unit
  | .object members => members.forM fun (name, v) => do
    key name
    d v
  | v => differs v describe

/-- Nothing for `null`. -/
def option {α : Type} (d : Decoder α) : Decoder (Option α)
  | .null => .ok none
  | v => (d v).map some

/-! ### Records -/

inductive Presence where
  | required
  /-- It may be missing from an object. -/
  | optional
  /-- It may be missing, also at the end of a list. -/
  | defaulted
deriving DecidableEq, Repr

/-- A member of a record: its name, whether it must be there, and its shape. -/
structure Field where
  name : String
  presence : Presence
  check : Decoder Unit

def required {α : Type} (name : String) (d : Decoder α) : Field :=
  ⟨name, .required, check d⟩

/-- A member that may be missing or `null`. -/
def optional {α : Type} (name : String) (d : Decoder α) : Field :=
  ⟨name, .optional, check (option d)⟩

/-- The same, also at the end of a list. -/
def defaulted {α : Type} (name : String) (d : Decoder α) : Field :=
  ⟨name, .defaulted, check (option d)⟩

/-- Where a record stands: by itself, or as a member of one of several records side by side. -/
inductive Form where
  | direct
  | nested
deriving DecidableEq, Repr

def elements (count : Nat) : String :=
  if count = 1 then "1 element" else s!"{count} elements"

/-- How a message counts the members of a list that is too long. -/
def Form.limit (form : Form) (count : Nat) : String :=
  match form with
  | .direct => "fewer elements in array"
  | .nested => s!"{elements count} in sequence"

/-- Checks the members of an object in the order of their names. -/
def checkMembers (fields : List Field) (members : Object) : Except Mismatch Unit :=
  members.forM fun (name, v) =>
    match fields.find? (·.name = name) with
    | none => .ok ()
    | some field => field.check v

/-- Checks that no member is missing that must be there. -/
def checkPresence (fields : List Field) (members : Object) : Except Mismatch Unit :=
  fields.forM fun field =>
    if field.presence = .required && (members.get? field.name).isNone then
      .error (.missingField field.name)
    else .ok ()

/-- Checks the members of a record that is given as a list, of which `index` have been checked. -/
def checkItems (describe : String) (form : Form) (count index : Nat) :
    List Field → List Json → Except Mismatch Object
  | [], [] => .ok []
  | [], rest => .error (.invalidLength (index + rest.length) (form.limit count))
  | field :: fields, [] =>
    if field.presence = .defaulted then checkItems describe form count (index + 1) fields []
    else .error (.invalidLength index s!"{describe} with {elements count}")
  | field :: fields, v :: rest => do
    field.check v
    return (field.name, v) :: (← checkItems describe form count (index + 1) fields rest)

/-- The members of a record, whose values have their shapes. -/
def recordIn (form : Form) (name : String) (fields : List Field) : Decoder Object
  | .object members => do
    -- What is missing is reported only if everything that is there fits.
    checkMembers fields members
    checkPresence fields members
    return members
  | .array items => checkItems s!"struct {name}" form fields.length 0 fields items
  | v => differs v s!"struct {name}"

def record (name : String) (fields : List Field) : Decoder Object :=
  recordIn .direct name fields

def shape (name : String) (fields : List Field) : Decoder Unit :=
  check (record name fields)

/-- An object in which several records stand side by side: its own members first, then those of
each record. -/
def sideBySide (name : String) (own : List Field) (records : List (List Field)) : Decoder Object
  | .object members => do
    (own :: records).forM fun fields => do
      checkMembers fields members
      checkPresence fields members
    return members
  | v => differs v s!"struct {name}"

/-- The value of a member that may be missing or `null`. -/
def field? {α : Type} (members : Object) (name : String) (d : Decoder α) :
    Except Mismatch (Option α) :=
  match members.get? name with
  | none => .ok none
  | some v => option d v

def field {α : Type} (members : Object) (name : String) (d : Decoder α) : Except Mismatch α :=
  match members.get? name with
  | none => .error (.missingField name)
  | some v => d v

end Decode

end SageEditor.Json

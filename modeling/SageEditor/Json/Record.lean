/-
Reading JSON text of a fixed shape.

* `Read.text` — a string, and nothing else;
* `Read.list` — a list whose items have one shape;
* `Read.record` — a record, given as an object or as the list of its fields.

Design notes: the fields of one record all have one shape here.  A record given as an object
skips members it does not know, and may not name a field twice; given as a list it has its fields
in order, where those at the end may be missing.  A mismatch inside a record is placed behind the
closing bracket if that is what follows.
-/
import SageEditor.Json.Reader

namespace SageEditor.Json.Read

/-- The failure to find a value of the wanted kind at the start of a text. A scalar is consumed
before it is reported, an opening bracket is not. -/
def unexpected (want : String) (cs : List Char) : Failure :=
  match cs with
  | '[' :: _ => .before cs (.mismatch (.invalidType .sequence want))
  | '{' :: _ => .before cs (.mismatch (.invalidType .map want))
  | _ =>
    match scalar? cs with
    | none => .into cs .expectedValue
    | some (.error e) => e
    | some (.ok (v, rest)) => .before rest (.mismatch (.invalidType (.ofJson v) want))

def text : Reader String := fun cs =>
  match skipBlanks cs with
  | [] => .error (.before [] .endInValue)
  | '"' :: rest => stringRest [] rest
  | cs => .error (unexpected "a string" cs)

/-- Reads a list, in which lists and records are nested at most `depth` deep. -/
def list {α : Type} (read : (depth : Nat) → Reader α) (depth : Nat) : Reader (List α) := fun cs =>
  match skipBlanks cs, depth with
  | [], _ => .error (.before [] .endInValue)
  | '[' :: rest, 0 => .error (.into ('[' :: rest) .tooDeep)
  | '[' :: rest, depth + 1 => items (read depth) rest
  | cs, _ => .error (unexpected "a sequence" cs)

/-- The shape of a record with fields of type `β`. -/
structure RecordShape (β α : Type) where
  /-- How messages name the record. -/
  describe : String
  fields : List String
  read : (depth : Nat) → Reader β
  /-- The record with the given field values; the index of a field that may not be missing. -/
  build : List (Option β) → Except Nat α

/-- What goes wrong inside a record: a failure with its place, or a mismatch found at a text. -/
inductive Trouble where
  | placed (e : Failure)
  | found (m : Mismatch) (rest : List Char)

/-- The mismatch of a record whose field number `i` is missing from a list. -/
def RecordShape.tooShort {β α : Type} (shape : RecordShape β α) (i : Nat) : Mismatch :=
  .invalidLength i s!"{shape.describe} with {shape.fields.length} elements"

/-- Reads the fields in the order of their names; `acc` holds those so far, in reverse. -/
def fieldsInOrder {β : Type} (read : Reader β) (first : Bool) (acc : List (Option β)) :
    (fields : List String) → Reader (List (Option β))
  | [], cs => .ok (acc.reverse, cs)
  | _ :: fields, cs => do
    match ← nextItem first cs with
    | (false, rest) => return (acc.reverse ++ none :: fields.map fun _ => none, rest)
    | (true, rest) =>
      let (b, rest) ← read rest
      fieldsInOrder read false (some b :: acc) fields rest

/-- Reads at most `bound` more members; `slots` holds the fields found so far. -/
def fieldsByName {β : Type} (names : List String) (read : Reader β) (first : Bool)
    (slots : List (Option β)) : (bound : Nat) → List Char →
    Except Trouble (List (Option β) × List Char)
  | 0, _ => .error (.placed (.before [] .endInObject))
  | bound + 1, cs => do
    match ← (nextName first cs).mapError .placed with
    | (false, rest) => return (slots, rest)
    | (true, rest) =>
      let (name, rest) ← (stringRest [] rest).mapError .placed
      match names.findIdx? (· = name) with
      | none =>
        let ((), rest) ← (colon rest).mapError .placed
        let ((), rest) ← (skip rest).mapError .placed
        fieldsByName names read false slots bound rest
      | some i =>
        -- The second value of a field is not even read.
        if (slots[i]?.join).isSome then throw (.found (.duplicateField name) rest)
        let ((), rest) ← (colon rest).mapError .placed
        let (b, rest) ← (read rest).mapError .placed
        fieldsByName names read false (slots.set i (some b)) bound rest

/-- Ends a record: reads its closing bracket and reports a mismatch where that leaves off. -/
def finish {α : Type} (close : List Char → Except Failure Unit × List Char)
    (result : Except Trouble (α × List Char)) : Except Failure (α × List Char) :=
  match result with
  | .error (.placed e) => .error e
  -- Whether the bracket closes decides the place of a mismatch, but not which error it is.
  | .error (.found m rest) => .error (.before (close rest).2 (.mismatch m))
  | .ok (a, rest) =>
    match close rest with
    | (.error e, _) => .error e
    | (.ok (), rest) => .ok (a, rest)

/-- Reads a record, in which lists and records are nested at most `depth` deep. -/
def record {β α : Type} (shape : RecordShape β α) (depth : Nat) : Reader α := fun cs =>
  match skipBlanks cs, depth with
  | [], _ => .error (.before [] .endInValue)
  | '[' :: rest, 0 => .error (.into ('[' :: rest) .tooDeep)
  | '{' :: rest, 0 => .error (.into ('{' :: rest) .tooDeep)
  | '[' :: rest, depth + 1 =>
    finish closeList do
      let (slots, rest) ←
        (fieldsInOrder (shape.read depth) true [] shape.fields rest).mapError .placed
      match shape.build slots with
      | .ok a => return (a, rest)
      | .error i => throw (.found (shape.tooShort i) rest)
  | '{' :: rest, depth + 1 =>
    finish closeObject do
      let (slots, rest) ←
        fieldsByName shape.fields (shape.read depth) true (shape.fields.map fun _ => none)
          (rest.length + 1) rest
      match shape.build slots with
      | .ok a => return (a, rest)
      | .error i => throw (.found (.missingField (shape.fields.getD i "")) rest)
  | cs, _ => .error (unexpected shape.describe cs)

end SageEditor.Json.Read

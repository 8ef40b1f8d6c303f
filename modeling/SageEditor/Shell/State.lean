/-
The state of a running shell.

* `Stream` — an open file or a pipe;
* `Shell.State` — files, variables, functions, open descriptors and how the script goes on;
* `Action` — what changes a state.

Design notes: a descriptor leads to a stream by its number, so that descriptors can share one; a
stream stays when the descriptors that lead to it are closed.  Words hold bytes as characters.
-/
import SageEditor.File.Directory
import SageEditor.Program.Utility
import SageEditor.Shell.Syntax

namespace SageEditor.Shell

open Program (pathOf)
open Text.Octets

/-- An open file or a pipe. -/
inductive Stream where
  /-- What is left to be read, of a file or of something else. -/
  | source (isFile : Bool) (rest : Text.Bytes)
  /-- What has been written, last piece first. -/
  | sink (written : List Text.Bytes)
  /-- A file that is written from a place on, or at its end. -/
  | file (l : Location) (position : Nat) (appends : Bool)

/-- A variable, which may have no value yet. -/
structure Variable where
  value : Option (List Char)
  isExported : Bool
  isReadOnly : Bool

/-- Why a script does not go on with the next command. -/
inductive Jump where
  | endLoops (levels : Nat)
  | nextRound (levels : Nat)
  | endFunction
  | endShell
  /-- The shell ends because of an error. -/
  | failed
  | killed (signal : Nat)
deriving DecidableEq, Repr

structure State where
  files : FileSystem
  /-- The variables with their names. -/
  bindings : List (List Char × Variable)
  functions : List (List Char × Command)
  /-- The texts that stand for names at the start of a command. -/
  aliases : List (List Char × List Char)
  /-- The name of the script, for messages. -/
  name : List Char
  arguments : List (List Char)
  status : Nat
  streams : List Stream
  /-- The streams of descriptors. -/
  descriptors : List (Nat × Nat)
  /-- The commands that signals, and the end of the shell under the number zero, lead to. -/
  traps : List (Nat × List Char)
  options : List Char
  /-- The line of the current command, for messages. -/
  line : Nat
  /-- The line that is to be read next. -/
  nextLine : Nat
  jump : Option Jump
  loopDepth : Nat
  callDepth : Nat
  /-- The variables that the running functions have replaced, innermost function first. -/
  replaced : List (List (List Char × Option Variable))
  /-- The number of the process. -/
  process : Nat
  /-- The number of the last process in the background, and the status of each. -/
  lastJob : Option Nat
  jobs : List (Nat × Nat)
  /-- Signals that have arrived. -/
  pending : List Nat
  /-- How the last command in a word has ended since the current command began. -/
  substituted : Option Nat
  /-- How far `getopts` is in a group of options. -/
  optionPlace : Nat
  /-- Whether the current command could not write. -/
  cannotWrite : Bool

abbrev Action := StateM State

namespace State

/-! ### Variables -/

def valueOf? (s : State) (name : List Char) : Option (List Char) :=
  (s.bindings.lookup name).bind (·.value)

/-- Sets a variable without looking whether it may change. -/
def withVariable (s : State) (name : List Char) (v : Variable) : State :=
  { s with bindings := (name, v) :: s.bindings.filter (·.1 ≠ name) }

def hasOption (s : State) (c : Char) : Bool := s.options.contains c

/-- The list of the directories that are searched for programs. -/
def searchList (s : State) : List Char := (s.valueOf? "PATH".toList).getD []

/-- Text that is split into fields at these characters. -/
def separators (s : State) : List Char :=
  (s.valueOf? "IFS".toList).getD [' ', '\t', '\n']

/-- The value of a parameter other than the list of arguments. -/
def parameter? (s : State) (name : List Char) : Option (List Char) :=
  match String.ofList name with
  | "?" => some (toString s.status).toList
  | "#" => some (toString s.arguments.length).toList
  | "$" => some (toString s.process).toList
  | "!" => s.lastJob.map fun n => (toString n).toList
  | "-" => some s.options
  | "0" => some s.name
  | "@" | "*" =>
    if s.arguments.isEmpty then none else some ([' '].intercalate s.arguments)
  | text =>
    match if name.all Char.isDigit then text.toNat? else none with
    | some n => s.arguments[n - 1]?
    | none => s.valueOf? name

/-! ### Streams -/

def openStream (s : State) (stream : Stream) : Nat × State :=
  (s.streams.length, { s with streams := s.streams ++ [stream] })

/-- Lets a descriptor lead to a stream. -/
def connect (s : State) (descriptor stream : Nat) : State :=
  { s with descriptors :=
      (descriptor, stream) :: s.descriptors.filter (·.1 ≠ descriptor) }

/-- Closes a descriptor. -/
def disconnect (s : State) (descriptor : Nat) : State :=
  { s with descriptors := s.descriptors.filter (·.1 ≠ descriptor) }

def streamOf? (s : State) (descriptor : Nat) : Option (Nat × Stream) := do
  let n ← s.descriptors.lookup descriptor
  return (n, ← s.streams[n]?)

def input (s : State) (descriptor : Nat) : Text.Bytes :=
  match s.streamOf? descriptor with
  | some (_, .source _ rest) => rest
  | _ => []

def readsFile (s : State) (descriptor : Nat) : Bool :=
  match s.streamOf? descriptor with
  | some (_, .source isFile _) => isFile
  | _ => false

/-- Leaves a descriptor less to read. -/
def withInput (s : State) (descriptor : Nat) (rest : Text.Bytes) : State :=
  match s.streamOf? descriptor with
  | some (n, .source isFile _) => { s with streams := s.streams.set n (.source isFile rest) }
  | _ => s

/-- Everything that has been written to a stream. -/
def writtenTo (s : State) (stream : Nat) : Text.Bytes :=
  match s.streams[stream]? with
  | some (.sink written) => written.reverse.flatten
  | _ => []

/-- Writes bytes to a file from a place on. -/
def writeAt (s : State) (l : Location) (position : Nat) (bytes : Text.Bytes) : State :=
  match s.files.node? l with
  | some (.file content mode) =>
    let front := content.take position
    let gap := List.replicate (position - front.length) 0
    let content := front ++ gap ++ bytes ++ content.drop (position + bytes.length)
    { s with files := s.files.put l (.file content mode) }
  | _ => s

def sizeOf (s : State) (l : Location) : Nat :=
  ((s.files.node? l).map Node.size).getD 0

/-- Writes to a descriptor; nothing if it cannot be written to. -/
def write? (s : State) (descriptor : Nat) (bytes : Text.Bytes) : Option State :=
  match s.streamOf? descriptor with
  | some (n, .sink written) =>
    some { s with streams := s.streams.set n (.sink (bytes :: written)) }
  | some (n, .file l position appends) =>
    let position := if appends then s.sizeOf l else position
    let s := s.writeAt l position bytes
    some { s with streams := s.streams.set n (.file l (position + bytes.length) appends) }
  | some (_, .source ..) | none => none

/-- Writes to a descriptor if that is possible. -/
def write (s : State) (descriptor : Nat) (bytes : Text.Bytes) : State :=
  (s.write? descriptor bytes).getD s

end State

/-! ### Actions -/

def hasJump : Action Bool := do
  return (← get).jump.isSome

def setStatus (n : Nat) : Action Unit :=
  modify fun s => { s with status := n }

def setJump (j : Jump) : Action Unit :=
  modify fun s => { s with jump := some j }

def complain (text : List Char) : Action Unit :=
  modify fun s =>
    s.write 2 (toBytes (s.name ++ ofString s!": {s.line}: " ++ text ++ ['\n']))

def abort (text : List Char) : Action Unit := do
  complain text
  setStatus 2
  setJump .failed

/-- Sets a variable, which ends the shell if it may not change. -/
def assign (name value : List Char) : Action Unit := do
  let s ← get
  let old := (s.bindings.lookup name).getD ⟨none, s.hasOption 'a', false⟩
  if old.isReadOnly then abort (name ++ ": is read only".toList)
  else set (s.withVariable name { old with value := some value })

def print (cs : List Char) : Action Unit :=
  modify fun s => (s.write? 1 (toBytes cs)).getD { s with cannotWrite := !cs.isEmpty }

end SageEditor.Shell

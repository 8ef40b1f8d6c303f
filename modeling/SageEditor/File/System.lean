/-
A file system as a value.

* `FileSystem` — directories and files with their content and permission bits, and the directory
  that relative paths start from;
* `FileSystem.resolve`, `FileSystem.place` — where a path leads, for reading and for writing;
* `FileSystem.read`, `FileSystem.write`, `FileSystem.remove`, `FileSystem.replace` — the work
  that is done with files.

Design notes: a location is the list of names from the root, and the nodes are kept as pairs, so
that a change at one location visibly leaves the others alone.  Operations that change files
return the changed system together with their outcome, since some of them change files before
they fail: writing empties a file first and can then run out of space, while replacing works on a
temporary file that takes the place of the old file in one step, once it has its permission bits.
-/
import SageEditor.File.Error

namespace SageEditor

/-- The names of the directories that lead from the root to a node, and its own name. -/
abbrev Location := List FileName

inductive Node where
  | file (content : Text.Bytes) (mode : Nat)
  | directory (mode : Nat)
deriving DecidableEq, Repr, Inhabited

namespace Node

def mode : Node → Nat
  | file _ mode => mode
  | directory mode => mode

def withMode (mode : Nat) : Node → Node
  | file content _ => file content mode
  | directory _ => directory mode

def isDirectory : Node → Bool
  | file .. => false
  | directory _ => true

def size : Node → Nat
  | file content _ => content.length
  | directory _ => 0

end Node

inductive Access where
  | reading
  | writing
  | entering
deriving DecidableEq, Repr

/-- The value of an access right within the digit of one class of users. -/
def Access.bit : Access → Nat
  | .reading => 4
  | .writing => 2
  | .entering => 1

/-- A file system and the directory that work in it starts from. -/
structure FileSystem where
  nodes : List (Location × Node)
  /-- The directory in which relative paths start. -/
  current : Location
  /-- How many bytes all files together can hold, if there is a limit. -/
  capacity : Option Nat
  /-- Whether permission bits are disregarded. -/
  privileged : Bool
  /-- Whether permission bits cannot be changed, as on media that do not keep them. -/
  fixedModes : Bool := false
deriving DecidableEq, Repr, Inhabited

namespace FileSystem

def fileMode : Nat := 0o644

def directoryMode : Nat := 0o755

/-! ### Nodes -/

/-- What a location holds; the root is always a directory. -/
def node? (fs : FileSystem) (l : Location) : Option Node :=
  if l = [] then some (.directory directoryMode)
  else (fs.nodes.find? (·.1 = l)).map (·.2)

def erase (fs : FileSystem) (l : Location) : FileSystem :=
  { fs with nodes := fs.nodes.filter (·.1 ≠ l) }

def put (fs : FileSystem) (l : Location) (n : Node) : FileSystem :=
  { fs with nodes := (l, n) :: (fs.erase l).nodes }

/-- The bytes that all files together hold. -/
def used (fs : FileSystem) : Nat :=
  fs.nodes.foldr (fun (_, n) total => n.size + total) 0

/-- Whether the permission bits grant access to the owner of a node. -/
def grants (fs : FileSystem) (access : Access) (n : Node) : Bool :=
  fs.privileged || n.mode / 64 / access.bit % 2 == 1

/-- Refuses access to a node that its permission bits do not grant. -/
def demand (fs : FileSystem) (access : Access) (n : Node) : Except FileError Unit :=
  if fs.grants access n then .ok () else .error .denied

/-! ### Where paths lead -/

/-- The longest name and the longest path that are allowed. -/
def maxName : Nat := 255

def maxPath : Nat := 4095

/-- The location must be a directory that may be entered. -/
def enter (fs : FileSystem) (l : Location) : Except FileError Unit :=
  match fs.node? l with
  | none => .error .notFound
  | some n => if n.isDirectory then fs.demand .entering n else .error .notDirectory

/-- Follows the names of a path from a directory. -/
def follow (fs : FileSystem) (l : Location) : List FileName → Except FileError Location
  | [] => .ok l
  | name :: names => do
    fs.enter l
    if Path.isIdle name then follow fs l names
    else if name = [Path.dot, Path.dot] then follow fs l.dropLast names
    else if maxName < name.length then throw .nameTooLong
    else if (fs.node? (l ++ [name])).isNone then throw .notFound
    else follow fs (l ++ [name]) names

/-- Refuses paths that cannot name anything. -/
def check (p : Path) : Except FileError Unit :=
  if p.bytes.contains 0 then .error .zeroInPath
  else if p.bytes.isEmpty then .error .notFound
  else if maxPath < p.bytes.length then .error .nameTooLong
  else .ok ()

def start (fs : FileSystem) (p : Path) : Location :=
  if p.isAbsolute then [] else fs.current

/-- The location of something that exists. -/
def resolve (fs : FileSystem) (p : Path) : Except FileError Location := do
  check p
  fs.follow (fs.start p) p.segments

def find (fs : FileSystem) (p : Path) : Except FileError (Location × Node) := do
  let l ← fs.resolve p
  match fs.node? l with
  | some n => return (l, n)
  | none => throw .notFound

def exists? (fs : FileSystem) (p : Path) : Bool :=
  (fs.find p).isOk

/-- Where a path that need not exist leads. -/
inductive Place where
  /-- A name in a directory; `slash` if a separator follows it. -/
  | entry (dir : Location) (name : FileName) (slash : Bool)
  /-- A directory that is not given by its name. -/
  | directory (l : Location)
deriving DecidableEq, Repr

/-- Where a path leads, of which all but the last name has to exist. -/
def place (fs : FileSystem) (p : Path) : Except FileError Place := do
  check p
  let names := (p.segments.reverse.dropWhile List.isEmpty).reverse
  match names.getLast? with
  | none => return .directory []
  | some name =>
    if name = [Path.dot] || name = [Path.dot, Path.dot] then
      return .directory (← fs.resolve p)
    else
      let dir ← fs.follow (fs.start p) names.dropLast
      fs.enter dir
      if maxName < name.length then throw .nameTooLong
      return .entry dir name (names.length < p.segments.length)

/-! ### Reading -/

def read (fs : FileSystem) (p : Path) : Except FileError Text.Bytes := do
  let (_, n) ← fs.find p
  fs.demand .reading n
  match n with
  | .file content _ => return content
  | .directory _ => throw .isDirectory

def readText (fs : FileSystem) (p : Path) : Except FileError String := do
  match Text.Utf8.decode? (← fs.read p) with
  | some text => return text
  | none => throw .notText

/-! ### Changing files -/

/-- Fills a file with content, as far as there is space for it. -/
def fill (fs : FileSystem) (l : Location) (mode : Nat) (content : Text.Bytes) :
    FileSystem × Except FileError Unit :=
  -- What the file held is gone, and its space is free, before there is a failure.
  let emptied := fs.put l (.file [] mode)
  match fs.capacity with
  | none => (emptied.put l (.file content mode), .ok ())
  | some limit =>
    let room := limit - emptied.used
    if content.length ≤ room then (emptied.put l (.file content mode), .ok ())
    else (emptied.put l (.file (content.take room) mode), .error .noSpace)

/-- The file that writing to a path changes or creates, and its permission bits. -/
def openForWriting (fs : FileSystem) (p : Path) : Except FileError (Location × Nat) := do
  match ← fs.place p with
  | .directory _ => throw .isDirectory
  | .entry dir name slash =>
    if slash then throw .isDirectory
    let l := dir ++ [name]
    match fs.node? l with
    | some (.directory _) => throw .isDirectory
    | some (.file content mode) =>
      fs.demand .writing (.file content mode)
      return (l, mode)
    | none =>
      if let some n := fs.node? dir then fs.demand .writing n
      return (l, fileMode)

/-- Empties or creates a file and then writes its content. -/
def write (fs : FileSystem) (p : Path) (content : Text.Bytes) :
    FileSystem × Except FileError Unit :=
  match fs.openForWriting p with
  | .error e => (fs, .error e)
  | .ok (l, mode) => fs.fill l mode content

def setModeAt (fs : FileSystem) (l : Location) (mode : Nat) : FileSystem × Except FileError Unit :=
  match fs.node? l with
  | none => (fs, .error .notFound)
  | some n =>
    if fs.fixedModes then (fs, .error .notPermitted) else (fs.put l (n.withMode mode), .ok ())

/-- The file that removing a path deletes. -/
def entryToRemove (fs : FileSystem) (p : Path) : Except FileError Location := do
  match ← fs.place p with
  | .directory _ => throw .isDirectory
  | .entry dir name slash =>
    match fs.node? (dir ++ [name]) with
    | none => throw .notFound
    | some (.directory _) => throw .isDirectory
    | some (.file ..) =>
      if slash then throw .notDirectory
      if let some n := fs.node? dir then fs.demand .writing n
      return dir ++ [name]

def remove (fs : FileSystem) (p : Path) : FileSystem × Except FileError Unit :=
  match fs.entryToRemove p with
  | .error e => (fs, .error e)
  | .ok l => (fs.erase l, .ok ())

/-! ### Replacing a file in one step -/

def temporaryName (n : Nat) : FileName :=
  let digits := toString n
  Text.Utf8.encode (".tmp" ++ "".pushn '0' (6 - digits.length) ++ digits)

/-- A name that nothing in a directory has. -/
def freshName (fs : FileSystem) (dir : Location) : FileName :=
  -- As many names as there are nodes and one more: they cannot all be taken.
  let free (n : Nat) : Bool := (fs.node? (dir ++ [temporaryName n])).isNone
  temporaryName (((List.range (fs.nodes.length + 1)).find? free).getD 0)

def absolute (fs : FileSystem) (p : Path) : Path :=
  Path.inside ⟨Path.join ([] :: fs.current)⟩ p

def temporaryIn (fs : FileSystem) (dir : Path) : Except FileError Location := do
  check dir
  let l ← fs.follow (fs.start dir) dir.segments
  fs.enter l
  if let some n := fs.node? l then fs.demand .writing n
  return l ++ [fs.freshName l]

/-- Where a file moved to a path ends up. -/
def destination (fs : FileSystem) (p : Path) : Except FileError Location := do
  if p.bytes.contains 0 then throw .invalid
  match ← fs.place p with
  | .directory _ => throw .busy
  | .entry dir name slash =>
    if slash then throw .notDirectory
    match fs.node? (dir ++ [name]) with
    | some (.directory _) => throw .isDirectory
    | _ =>
      if let some n := fs.node? dir then fs.demand .writing n
      return dir ++ [name]

/-- The directory of a path, for a file beside the one that the path names. -/
def directoryOf (p : Path) : Path :=
  match p.parent? with
  | some dir => if dir.bytes.isEmpty then ⟨[Path.dot]⟩ else dir
  | none => ⟨[Path.dot]⟩

/-- The permission bits of what a path leads to, or those of new files. -/
def keptMode (fs : FileSystem) (p : Path) : Nat :=
  match fs.find p with
  | .ok (_, n) => n.mode
  | .error _ => fileMode

/-- Writes a temporary file beside a path and lets it take the place of what was there. A file
keeps its permission bits. On failure the temporary file is deleted. -/
def replace (fs : FileSystem) (p : Path) (content : Text.Bytes) :
    FileSystem × Except FileError Unit :=
  let dir := directoryOf p
  let shown (l : Location) : Path := Path.inside (fs.absolute dir) ⟨(l.getLast?).getD []⟩
  match fs.temporaryIn dir with
  | .error e => (fs, .error (.atPath e (shown [temporaryName 0])))
  | .ok temporary =>
    match fs.fill temporary fileMode content with
    | (filled, .error e) => (filled.erase temporary, .error (.atPath e (shown temporary)))
    | (filled, .ok ()) =>
      -- The bits are set before the move, so that the path never leads to a file without them.
      let mode := filled.keptMode p
      match filled.setModeAt temporary mode with
      | (filled, .error e) => (filled.erase temporary, .error e)
      | (ready, .ok ()) =>
        match ready.destination p with
        | .error e => (ready.erase temporary, .error e)
        | .ok l => ((ready.erase temporary).put l (.file content mode), .ok ())

end FileSystem

end SageEditor

/-
Paths of files.

* `Path` — a path as it was written, which is a sequence of bytes;
* `Path.components` — the steps that a path denotes;
* `Path.fileName?`, `Path.extension?`, `Path.parent?` — its last step, what follows the last dot
  of that, and what stands before it.

Design notes: paths are compared and shown as they were written.  Repeated separators and single
dots denote no step, except for a dot at the start of a relative path.  Bytes that are not UTF-8
are shown as `U+FFFD`.
-/
import SageEditor.Text.Utf8

namespace SageEditor

abbrev FileName := Text.Bytes

/-- A path as it was written. -/
structure Path where
  bytes : Text.Bytes
deriving DecidableEq, Repr, Inhabited

inductive Path.Component where
  | root
  /-- The dot at the start of a relative path. -/
  | current
  | parent
  | normal (name : FileName)
deriving DecidableEq, Repr

namespace Path

def ofString (s : String) : Path := ⟨Text.Utf8.encode s⟩

/-- The path as messages show it. -/
def display (p : Path) : String := Text.Utf8.decodeLossy p.bytes

def separator : UInt8 := 0x2f

/-- The byte that begins an extension. -/
def dot : UInt8 := 0x2e

/-- The parts of a path between its separators; they can be empty. -/
def split : Text.Bytes → List FileName
  | [] => [[]]
  | b :: rest =>
    if b = separator then [] :: split rest
    else
      match split rest with
      | [] => [[b]]
      | name :: names => (b :: name) :: names

def join (names : List FileName) : Text.Bytes :=
  [separator].intercalate names

def segments (p : Path) : List FileName := split p.bytes

def isAbsolute (p : Path) : Bool := p.bytes.head? = some separator

/-- The path inside a directory: an absolute path stays as it is. -/
def inside (dir p : Path) : Path :=
  if p.isAbsolute then p
  else if dir.bytes.getLast? = some separator || dir.bytes.isEmpty then ⟨dir.bytes ++ p.bytes⟩
  else ⟨dir.bytes ++ separator :: p.bytes⟩

/-- A part that denotes no step: nothing, or a dot. -/
def isIdle (name : FileName) : Bool := name.isEmpty || name == [dot]

/-- The step of a part that is not idle. -/
def Component.ofName (name : FileName) : Component :=
  if name = [dot, dot] then .parent else .normal name

def components (p : Path) : List Component :=
  let steps := (p.segments.filter (!isIdle ·)).map .ofName
  if p.isAbsolute then .root :: steps
  else if p.segments.head? = some [dot] then .current :: steps
  else steps

/-- The name of the last step, if that is a name. -/
def fileName? (p : Path) : Option FileName :=
  match p.components.getLast? with
  | some (.normal name) => some name
  | _ => none

/-- What follows the last dot of a name, unless the name begins with that dot. -/
def extensionOf? (name : FileName) : Option Text.Bytes :=
  let backwards := name.reverse
  match backwards.dropWhile (· != dot) with
  | [] | [_] => none
  | _ => some (backwards.takeWhile (· != dot)).reverse

def extension? (p : Path) : Option Text.Bytes :=
  p.fileName?.bind extensionOf?

/-- Drops idle parts from the end. -/
def dropIdle (names : List FileName) : List FileName :=
  (names.reverse.dropWhile isIdle).reverse

/-- The path before its last step, as it was written, or nothing if there is no such step. -/
def parent? (p : Path) : Option Path :=
  let (start, body) :=
    match p.segments with
    | first :: others =>
      if first = [dot] || (first = [] && !others.isEmpty) then (some first, others)
      else (none, first :: others)
    | [] => (none, [])
  match start, dropIdle body with
  | none, [] => none
  | some first, [] => if first = [dot] then some ⟨[]⟩ else none
  | start, names =>
    match start, dropIdle names.dropLast with
    | some first, [] => some ⟨if first = [] then [separator] else first⟩
    | some first, names => some ⟨join (first :: names)⟩
    | none, names => some ⟨join names⟩

/-- The path with more bytes at its end. -/
def append (p : Path) (more : String) : Path :=
  ⟨p.bytes ++ Text.Utf8.encode more⟩

end Path

end SageEditor

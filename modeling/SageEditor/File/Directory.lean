/-
Directories and permission bits.

* `FileSystem.makeDirectory`, `FileSystem.makeDirectories` — creates a directory, alone or with
  those above it;
* `FileSystem.setMode` — changes permission bits;
* `FileSystem.removeAll`, `FileSystem.removeDirectory` — removes a file or a directory with all
  that is in it, or an empty directory;
* `FileSystem.move` — gives a file or a directory another path;
* `FileSystem.entries` — the names in a directory.
-/
import SageEditor.File.System

namespace SageEditor.FileSystem

/-- A file system with directories only, the last of which is the current one. -/
def ofDirectories (directories : List Location) (current : Location) : FileSystem where
  nodes := (current :: directories).map fun l => (l, .directory directoryMode)
  current := current
  capacity := none
  privileged := true

/-- Creates a directory in a directory that exists. -/
def makeDirectory (fs : FileSystem) (p : Path) : FileSystem × Except FileError Unit :=
  match fs.place p with
  | .error e => (fs, .error e)
  | .ok (.directory _) => (fs, .error .alreadyExists)
  | .ok (.entry dir name _) =>
    if (fs.node? (dir ++ [name])).isSome then (fs, .error .alreadyExists)
    else (fs.put (dir ++ [name]) (.directory directoryMode), .ok ())

/-- Creates every missing directory on the way down from a directory. -/
def makeFrom (fs : FileSystem) (l : Location) : List FileName → FileSystem × Except FileError Unit
  | [] => (fs, .ok ())
  | name :: names =>
    if Path.isIdle name then makeFrom fs l names
    else if name = [Path.dot, Path.dot] then makeFrom fs l.dropLast names
    else
      match fs.node? (l ++ [name]) with
      | some (.file ..) => (fs, .error .notDirectory)
      | some (.directory _) => makeFrom fs (l ++ [name]) names
      | none =>
        makeFrom (fs.put (l ++ [name]) (.directory directoryMode)) (l ++ [name]) names

/-- Creates a directory and those above it that are missing. -/
def makeDirectories (fs : FileSystem) (p : Path) : FileSystem × Except FileError Unit :=
  fs.makeFrom (fs.start p) p.segments

def setMode (fs : FileSystem) (p : Path) (mode : Nat) : FileSystem × Except FileError Unit :=
  match fs.find p with
  | .error e => (fs, .error e)
  | .ok (l, _) => fs.setModeAt l mode

/-- Removes what a path leads to, with all that is in it. -/
def removeAll (fs : FileSystem) (p : Path) : FileSystem × Except FileError Unit :=
  match fs.find p with
  | .error e => (fs, .error e)
  | .ok (l, _) => ({ fs with nodes := fs.nodes.filter fun n => !l.isPrefixOf n.1 }, .ok ())

/-- The names in a directory, in the order of their bytes. -/
def entries (fs : FileSystem) (l : Location) : List FileName :=
  ((fs.nodes.filterMap fun (m, _) =>
    if m ≠ [] && m.dropLast = l then m.getLast? else none).mergeSort
      fun a b => !(decide (b < a)))

/-- Removes a directory with nothing in it. -/
def removeDirectory (fs : FileSystem) (p : Path) : FileSystem × Except FileError Unit :=
  match fs.find p with
  | .error e => (fs, .error e)
  | .ok (_, .file ..) => (fs, .error .notDirectory)
  | .ok (l, .directory _) =>
    if (fs.entries l).isEmpty then (fs.erase l, .ok ()) else (fs, .error .notEmpty)

/-- Gives what a path leads to another path, where it takes the place of a file. -/
def move (fs : FileSystem) (old new : Path) : FileSystem × Except FileError Unit :=
  match fs.find old, fs.place new with
  | .error e, _ | _, .error e => (fs, .error e)
  | .ok (l, n), .ok p =>
    let target := match p with
      | .directory l => l
      | .entry dir name _ => dir ++ [name]
    match n, fs.node? target with
    | .file .., some (.directory _) => (fs, .error .isDirectory)
    | .directory _, some (.file ..) => (fs, .error .notDirectory)
    | _, _ =>
      if l = target then (fs, .ok ())
      else
        let moved (m : Location × Node) : Location × Node :=
          if l.isPrefixOf m.1 then (target ++ m.1.drop l.length, m.2) else m
        ({ fs with nodes := ((fs.erase target).nodes).map moved }, .ok ())

end SageEditor.FileSystem

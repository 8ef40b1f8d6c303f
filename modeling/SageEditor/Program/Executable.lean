/-
How programs are found and started.

* `install` — a file system with the built-in programs in their directories;
* `search` — the file of a program that is given by its name alone, in the directories of a list;
* `resolve` — the built-in program that a file starts in the end, with its words.

Design notes: a file that begins with `#!` is a script.  It starts the interpreter that is named
there, which gets at most one word from that line and then the path of the script before the words
of the call.  An interpreter may be a script itself, a few times over.
-/
import SageEditor.Program.Utility
import SageEditor.Text.Occurrence

namespace SageEditor.Program

open Text.Octets

/-- The built-in programs that start others. -/
def starters : List String := ["sh", "dash", "env"]

def builtinNames : List String := Utility.names ++ starters

/-- The directories in which the built-in programs are found. -/
def directories : List Location :=
  [["bin"], ["usr", "bin"]].map fun names => names.map Text.Utf8.encode

def toolsName : String := "sage-tools"

/-- The number of the process that starts programs, the command line tools. -/
def toolsProcess : Nat := 1000

/-- The directories of the running processes and of the one of the command line tools. -/
def processDirectories : List Location :=
  [["proc"], ["proc", toString toolsProcess]].map fun names => names.map Text.Utf8.encode

/-- The file of the program that the process of the command line tools runs. -/
def toolsLocation : Location :=
  ["proc", toString toolsProcess, "exe"].map Text.Utf8.encode

/-- A file system with the built-in programs in their directories, the program of the command line
tools, and an empty file that takes what is not wanted. -/
def install (fs : FileSystem) : FileSystem :=
  let devices : Location := [Text.Utf8.encode "dev"]
  let program : Node := .file [0x7f] 0o755
  let fs := ([Text.Utf8.encode "usr"] :: devices :: directories ++ processDirectories).foldl
    (fun fs l => fs.put l (.directory FileSystem.directoryMode)) fs
  let fs := fs.put (devices ++ [Text.Utf8.encode "null"]) (.file [] 0o666)
  let fs := fs.put toolsLocation program
  directories.foldl (fun fs dir =>
    builtinNames.foldl (fun fs name => fs.put (dir ++ [Text.Utf8.encode name]) program) fs) fs

def builtinAt? (l : Location) : Option String :=
  if l = toolsLocation then some toolsName
  else if directories.contains l.dropLast then
    builtinNames.find? fun name => l.getLast? = some (Text.Utf8.encode name)
  else none

def isExecutable (fs : FileSystem) (n : Node) : Bool :=
  if fs.privileged then n.mode &&& 0o111 != 0 else fs.grants .entering n

def executable (fs : FileSystem) (p : Path) : Except FileError (Location × Text.Bytes) := do
  let (l, n) ← fs.find p
  match n with
  | .directory _ => throw .denied
  | .file content _ => if isExecutable fs n then return (l, content) else throw .denied

/-- The list of the directories that are searched for a program, with colons between them. -/
def searchList : List Char :=
  "/usr/local/sbin:/usr/local/bin:/usr/sbin:/usr/bin:/sbin:/bin".toList

/-- The file of a program that is given by its name alone. -/
def search (fs : FileSystem) (list name : List Char) : Except FileError (List Char) :=
  if name.isEmpty then .error .notFound
  else if FileSystem.maxName < name.length then .error .nameTooLong
  else
    let candidates := (Text.split ':' list).map fun dir =>
      if dir.isEmpty then name else dir ++ '/' :: name
    match candidates.find? fun p => (executable fs (pathOf p)).isOk with
    | some p => .ok p
    | none => .error (if candidates.any fun p => fs.exists? (pathOf p) then .denied else .notFound)

/-- The longest first line of a script that is looked at. -/
def longestInterpreterLine : Nat := 256

/-- The words of a script's first line after `#!`: a path and the rest, if there is any. -/
def interpreterLine? (content : Text.Bytes) : Option (List (List Char)) :=
  match content with
  | 0x23 :: 0x21 :: rest =>
    let isBlank (c : Char) : Bool := c == ' ' || c == '\t'
    let start := ofBytes (rest.take (longestInterpreterLine - 2))
    -- Of a longer line the last character that fits is lost.
    let isWhole := start.length < longestInterpreterLine - 2 || start.contains '\n'
    let line := if isWhole then start.takeWhile (· != '\n') else start.dropLast
    let line := line.dropWhile isBlank
    let line := (line.reverse.dropWhile isBlank).reverse
    let interpreter := line.takeWhile fun c => !isBlank c && c != '\x00'
    let more := ((line.drop interpreter.length).dropWhile isBlank).takeWhile (· != '\x00')
    -- A path that may have been cut off is not used.
    if interpreter.isEmpty || !isWhole && interpreter.length = line.length then none
    else some (interpreter :: if more.isEmpty then [] else [more])
  | _ => none

/-- How often an interpreter may be a script itself. -/
def deepestScript : Nat := 5

/-- A built-in program with the words of its call, the first of which is its name. -/
structure Started where
  program : String
  words : List (List Char)

/-- The built-in program that a file starts in the end. -/
def resolve (fs : FileSystem) : (depth : Nat) → (file : Path) → (words : List (List Char)) →
    Except FileError Started
  | depth, file, words => do
    let (l, content) ← executable fs file
    match builtinAt? l, interpreterLine? content, depth with
    | some program, _, _ => return ⟨program, words⟩
    | none, none, _ => throw .badFormat
    | none, some _, 0 => throw .tooManyLevels
    | none, some line, depth + 1 =>
      resolve fs depth (pathOf (line.headD [])) (line ++ ofBytes file.bytes :: words.drop 1)

/-- Starts a program by its path, or by its name alone in the directories of a list. -/
def start (fs : FileSystem) (list : List Char) (words : List (List Char)) :
    Except FileError Started := do
  let name := words.headD []
  let file ← if name.contains '/' then pure name else search fs list name
  resolve fs deepestScript (pathOf file) words

end SageEditor.Program

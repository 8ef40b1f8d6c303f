/-
The programs.

* `main` — the command line tools, or the language server after the word `serve`.

Design notes: the files that a command names are read into a `FileSystem` before the command runs
on it, and what it changed is written back afterwards.  The server speaks over standard input and
output, where the length of each message stands in front of it.
-/
import SageEditor.CommandLine.Serve
import SageEditor.File.Directory
import SageEditor.Run.Launch

namespace SageEditor.Main

/-! ### Files -/

def isDirectory (p : String) : IO Bool := do
  ((← IO.currentDir) / p).isDir

/-- The content of a file, if it can be read. -/
def content? (p : String) : IO (Option Text.Bytes) := do
  try return some (← IO.FS.readBinFile p).toList
  catch _ => return none

/-- The location of a path that leads from a directory. -/
def locationIn (dir : Location) (p : Path) : Location :=
  p.segments.foldl (fun l name =>
    if Path.isIdle name then l
    else if name = [Path.dot, Path.dot] then l.dropLast
    else l ++ [name]) (if p.isAbsolute then [] else dir)

def locationText (l : Location) : String :=
  Text.Utf8.decodeLossy (Path.separator :: Path.join l)

/-- Adds what a location holds, and the directories above it. -/
def addLocation (fs : FileSystem) (l : Location) : IO FileSystem := do
  let mut fs := fs
  for n in List.range l.length do
    let above := l.take n
    if (fs.node? above).isNone && (← isDirectory (locationText above)) then
      fs := fs.put above (.directory FileSystem.directoryMode)
  match ← content? (locationText l) with
  | some bytes => return fs.put l (.file bytes FileSystem.fileMode)
  | none =>
    if l != [] && (← isDirectory (locationText l)) then
      return fs.put l (.directory FileSystem.directoryMode)
    else return fs

def here : IO Location := do
  return locationIn [] (.ofString (← IO.currentDir).toString)

/-- The files that some paths lead to, as a file system. -/
def snapshot (paths : List Path) : IO FileSystem := do
  let current ← here
  let mut fs := Program.install (.ofDirectories [] current)
  fs ← addLocation fs current
  for p in paths do
    fs ← addLocation fs (locationIn current p)
  return fs

/-- Writes the files that have changed since they were read. -/
def writeBack (before after : FileSystem) : IO Unit := do
  for (l, n) in after.nodes do
    if before.node? l != some n then
      if let .file bytes _ := n then
        IO.FS.writeBinFile (locationText l) ⟨bytes.toArray⟩
  for (l, n) in before.nodes do
    if (after.node? l).isNone && !n.isDirectory then
      IO.FS.removeFile (locationText l)

/-! ### The command line tools -/

def withByproduct (p : Path) : List Path := [p, p.append ".py"]

def pathsOf : Tool → List Path
  | .version | .executorCommand _ => []
  | .injectGrammar symbols template output => [symbols, template, output]
  | .run file _ interpreter => .ofString interpreter :: withByproduct file
  | .executorMap settings _ => [settings]
  | .lookup _ symbols _ => [symbols]
  | .complete _ paths _ _ => paths.symbols.toList ++ paths.keywords.toList

def finish (r : ExitReport) : IO UInt32 := do
  IO.print r.stdout
  IO.eprint r.stderr
  return r.code.toUInt32

def usage (program : String) : IO UInt32 := do
  IO.eprintln s!"usage: {program} [OPTIONS]"
  return 2

def runTools (args : List String) : IO UInt32 := do
  match Tool.ofArguments? args with
  | none => usage "sage-tools"
  | some tool =>
    let before ← snapshot (pathsOf tool)
    let (after, report) := tool.perform Program.launch before
    writeBack before after
    finish report

/-! ### The language server -/

/-- The number in a header line that gives the length of a message. -/
def lengthHeader? (line : String) : Option Nat :=
  match line.splitOn ":" with
  | [name, value] =>
    if name.toLower = "content-length" then value.trimAscii.toString.toNat? else none
  | _ => none

/-- Reads the header of a message up to the empty line; the length of the message. -/
partial def readHeader (input : IO.FS.Stream) (length : Option Nat) : IO (Option Nat) := do
  let line ← input.getLine
  if line.isEmpty then return none
  else if line.trimAscii.isEmpty then return length
  else readHeader input (lengthHeader? line <|> length)

/-- Reads so many bytes, or fewer at the end of the input. -/
partial def readBytes (input : IO.FS.Stream) (read : ByteArray) (length : Nat) : IO ByteArray := do
  if length ≤ read.size then return read
  let more ← input.read (length - read.size).toUSize
  if more.isEmpty then return read else readBytes input (read ++ more) length

def writeMessage (output : IO.FS.Stream) (v : Json) : IO Unit := do
  let body := (v.compact).toUTF8
  output.putStr s!"Content-Length: {body.size}\r\n\r\n"
  output.write body
  output.flush

def versioned : Json → Json
  | .object ms => .object (Json.Object.insert ms "jsonrpc" (.string "2.0"))
  | v => v

/-- The paths that a message can make the server work on. -/
def pathsOfMessage (s : Session) (m : Message) : List Path :=
  let after := (s.handle (fun _ _ _ => .error .notFound) default m).1
  let c := after.server.configuration
  let run := match (m.params.bind (·.member? "arguments")) with
    | some (.array arguments) =>
      match fileArgument arguments with
      | .ok p => .ofString c.interpreter :: withByproduct p
      | .error _ => []
    | _ => []
  c.paths.symbols.toList ++ c.paths.keywords.toList ++ run

/-- Handles messages until the input ends or the session is over. -/
partial def serveFrom (input output : IO.FS.Stream) (s : Session) : IO UInt32 := do
  let some length ← readHeader input none | return 0
  let body ← readBytes input .empty length
  match Json.parse (Text.Utf8.decodeLossy body.toList) with
  | .error _ => serveFrom input output s
  | .ok v =>
    let m := Message.ofJson v
    let before ← snapshot (pathsOfMessage s m)
    let (s, after, sent, reply) := s.handle Program.launch before m
    writeBack before after
    for n in sent do writeMessage output (versioned n.toJson)
    match reply with
    | .exited => return 0
    | .answered (some r) =>
      writeMessage output (versioned r.toJson)
      serveFrom input output s
    | .answered none => if s.phase = .exited then return 0 else serveFrom input output s

def runServer (args : List String) : IO UInt32 := do
  match ServeOptions.ofArguments args with
  | .error .usage => usage "sagemath-lsp"
  | .error .noChannel => finish noChannelReport
  | .ok o => serveFrom (← IO.getStdin) (← IO.getStdout) (.start o.paths o.debug)

end SageEditor.Main

/-- The language server after the word `serve`, the command line tools otherwise. -/
def main (args : List String) : IO UInt32 :=
  match args with
  | "serve" :: args => SageEditor.Main.runServer args
  | args => SageEditor.Main.runTools args

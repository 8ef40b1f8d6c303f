/-
The commands of the server.

* `Command` — the commands that a client can have executed;
* `fileArgument` — the path that an argument denotes;
* `runRequest` — the run that a command asks for;
* `ResponseError` — the error that answers a request.

Design notes: an argument is a URL of a local file or a path.  A text that is no URL, or one of
another scheme, is taken as a path.
-/
import SageEditor.Server.Configuration
import SageEditor.Url.Basic

namespace SageEditor

structure ResponseError where
  code : Int
  message : String
  /-- What the message is about. -/
  data : Option Json
deriving Repr, Inhabited

namespace ResponseError

def invalidParams (message : String) : ResponseError := ⟨-32602, message, none⟩

def internal (message : String) : ResponseError := ⟨-32603, message, none⟩

/-- A run that could not be started or cleaned up after is the server's failure. -/
def ofRun (e : RunError) : ResponseError := internal e.message

end ResponseError

inductive Command where
  /-- Runs a file. -/
  | run (mode : ExecutionMode)
  | reloadSymbols
  | executorCommand
  | executorMap
deriving DecidableEq, Repr

namespace Command

def all : List Command :=
  [run .runOnly, run .runAndClean, reloadSymbols, executorCommand, executorMap]

def name : Command → String
  | run .runOnly => "sage.runFile"
  | run .runAndClean => "sage.runFileAndClean"
  | reloadSymbols => "sage.reloadSymbols"
  | executorCommand => "sage.executorCommand"
  | executorMap => "sage.executorMap"

def ofName? (s : String) : Option Command :=
  all.find? (·.name = s)

end Command

/-- The path that the first argument denotes. -/
def fileArgument (arguments : List Json) : Except ResponseError Path :=
  match arguments with
  | .string s :: _ =>
    match Url.parse s with
    | .error _ => .ok (.ofString s)
    | .ok url =>
      if url.scheme = Url.fileScheme then
        match url.toFilePath? with
        | some p => .ok p
        | none => .error (.invalidParams s!"Not a local file: {s}")
      else .ok (.ofString s)
  | _ => .error (.invalidParams "Missing file argument")

/-- The run of the file that the arguments name. -/
def runRequest (mode : ExecutionMode) (arguments : List Json) (c : Configuration) :
    Except ResponseError RunRequest := do
  let file ← fileArgument arguments
  (RunRequest.ofFile file mode c.interpreter).mapError fun e => .invalidParams e.message

/-- The run that a command of the given name asks for. -/
def commandRequest (command : String) (arguments : List Json) (c : Configuration) :
    Except ResponseError RunRequest :=
  match Command.ofName? command with
  | some (.run mode) => runRequest mode arguments c
  | _ => .error (.invalidParams s!"Not a run command: {command}")

/-- What a run gave, as a JSON value. -/
def RunOutput.toJson (r : RunRequest) (o : RunOutput) : Json :=
  Json.mkObject [
    ("command", .string r.shellLine),
    ("success", .bool o.success),
    ("code", (o.code.map Json.ofInt).getD .null),
    ("stdout", .string o.stdout),
    ("stderr", .string o.stderr),
    ("removed", (o.removed.map fun p => .string p.display).getD .null)]

/-- The command for the mode in force. -/
def executorCommandValue (c : Configuration) : Json :=
  .string (executorCommand c.executionMode)

/-- The table of commands in the first argument, with the entry for the mode in force. -/
def executorMapValue (arguments : List Json) (c : Configuration) : Json :=
  .object (executorMap arguments.head? c.executionMode)

end SageEditor

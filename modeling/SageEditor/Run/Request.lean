/-
Running Sage files.

* `RunRequest` — a file with its interpreter, and whether to clean up afterwards;
* `RunRequest.shellLine` — the request as a line for a shell;
* `RunRequest.execute` — the run itself, for any behaviour of programs.

Design notes: what a program does is given by a `Launcher`, which either starts the program and
tells how it ended and what it made of the files, or fails to start it.  Interpreters leave a
by-product beside the file, and cleaning deletes it after a successful run, if it is there.
-/
import SageEditor.File.System
import SageEditor.Run.Executor

namespace SageEditor

/-- How a program ended: with an exit code, or none if a signal ended it, and what it wrote. -/
structure Outcome where
  code : Option Int
  stdout : Text.Bytes
  stderr : Text.Bytes
deriving DecidableEq, Repr, Inhabited

def Outcome.success (o : Outcome) : Bool := o.code == some 0

/-- What starting a program with an argument leads to. -/
abbrev Launcher :=
  FileSystem → (program : Text.Bytes) → (argument : Text.Bytes) →
    Except FileError (FileSystem × Outcome)

/-- Why a file was not run to the end. -/
inductive RunError where
  | notSageFile
  | spawn (interpreter : String) (e : FileError)
  | cleanup (p : Path) (e : FileError)
deriving DecidableEq, Repr

def RunError.message : RunError → String
  | .notSageFile => "No active Sage file found."
  | .spawn interpreter e => s!"failed to start \x60{interpreter}\x60: {e.message}"
  | .cleanup p e => s!"failed to remove {p.display}: {e.message}"

def defaultInterpreter : String := "sage"

def sageExtension : Text.Bytes := Text.Utf8.encode "sage"

structure RunRequest where
  file : Path
  interpreter : String
  clean : Bool
deriving DecidableEq, Repr, Inhabited

structure RunOutput where
  success : Bool
  code : Option Int
  stdout : String
  stderr : String
  /-- The by-product, if it was deleted. -/
  removed : Option Path
deriving DecidableEq, Repr, Inhabited

namespace RunRequest

/-- The request to run a file, which has to be a Sage file. -/
def ofFile (file : Path) (mode : ExecutionMode) (interpreter : String) :
    Except RunError RunRequest :=
  if file.extension? = some sageExtension then .ok ⟨file, interpreter, mode.cleans⟩
  else .error .notSageFile

/-- The file that an interpreter leaves beside the source. -/
def byproduct (r : RunRequest) : Path := r.file.append ".py"

def shellLine (r : RunRequest) : String :=
  let run := s!"{r.interpreter} \"{r.file.display}\""
  if r.clean then s!"{run} && rm -f \"{r.byproduct.display}\"" else run

/-- Deletes the by-product if it is there, and returns its path if it was. -/
def cleanUp (r : RunRequest) (fs : FileSystem) :
    FileSystem × Except RunError (Option Path) :=
  match fs.remove r.byproduct with
  | (fs, .ok ()) => (fs, .ok (some r.byproduct))
  | (fs, .error .notFound) => (fs, .ok none)
  | (fs, .error e) => (fs, .error (.cleanup r.byproduct e))

def execute (r : RunRequest) (launch : Launcher) (fs : FileSystem) :
    FileSystem × Except RunError RunOutput :=
  match launch fs (Text.Utf8.encode r.interpreter) r.file.bytes with
  | .error e => (fs, .error (.spawn r.interpreter e))
  | .ok (fs, outcome) =>
    let output (removed : Option Path) : RunOutput :=
      ⟨outcome.success, outcome.code, Text.Utf8.decodeLossy outcome.stdout,
        Text.Utf8.decodeLossy outcome.stderr, removed⟩
    if r.clean && outcome.success then
      match r.cleanUp fs with
      | (fs, .error e) => (fs, .error e)
      | (fs, .ok removed) => (fs, .ok (output removed))
    else (fs, .ok (output none))

end RunRequest

end SageEditor

/-
Settings files.

* `updateSettings` — sets the command for Sage files in a settings file.

Design notes: a settings file may hold comments, which are lost when it is written again.  A file
that is missing or holds no value counts as an empty object.
-/
import SageEditor.File.System
import SageEditor.Json.Writer
import SageEditor.Jsonc.Reader
import SageEditor.Run.Executor

namespace SageEditor

inductive SettingsError where
  | unreadable (p : Path) (e : FileError)
  | malformed (p : Path) (e : Jsonc.SyntaxError)
  | unwritable (p : Path) (e : FileError)
deriving DecidableEq, Repr

def SettingsError.message : SettingsError → String
  | .unreadable p e => s!"failed to read {p.display}: {e.message}"
  | .malformed p e => s!"{p.display} is not valid JSON: {e.message}"
  | .unwritable p e => s!"failed to write {p.display}: {e.message}"

/-- The document in a settings file. -/
def readSettings (fs : FileSystem) (p : Path) : Except SettingsError Json := do
  if fs.exists? p then
    let text ← (fs.readText p).mapError (.unreadable p)
    let document ← (Jsonc.parse text).mapError (.malformed p)
    return document.getD (.object [])
  else return .object []

def settingsText (document : Json) : String :=
  document.pretty ++ "\n"

/-- Updates a settings file and returns the new document. -/
def updateSettings (fs : FileSystem) (p : Path) (mode : ExecutionMode) :
    FileSystem × Except SettingsError Json :=
  match readSettings fs p with
  | .error e => (fs, .error e)
  | .ok old =>
    let document := setExecutor old mode
    match fs.write p (Text.Utf8.encode (settingsText document)) with
    | (fs, .error e) => (fs, .error (.unwritable p e))
    | (fs, .ok ()) => (fs, .ok document)

end SageEditor

/-
The configuration of the server.

* `ClientSettings` — the settings that a client may send;
* `Configuration` — the settings in force;
* `Configuration.apply` — what new settings change.

Design notes: every setting may be missing or `null`, which leaves it as it was.  If one setting
is not of its kind, all that came with it are ignored.
-/
import SageEditor.DataStore
import SageEditor.Json.Decode
import SageEditor.Run.Request

namespace SageEditor

/-- Settings as a client sends them. -/
structure ClientSettings where
  symbolsPath : Option Path
  keywordsPath : Option Path
  interpreter : Option String
  executionMode : Option String
  caseInsensitiveCompletion : Option Bool
deriving DecidableEq, Repr, Inhabited

namespace ClientSettings

def none : ClientSettings := ⟨.none, .none, .none, .none, .none⟩

def path : Json.Decoder Path
  | .string s => .ok (.ofString s)
  | v => Json.Decode.differs v "path string"

open Json.Decode in
def decode : Json.Decoder ClientSettings := fun v => do
  let members ← record "ClientSettings"
    [defaulted "symbolsPath" path, defaulted "keywordsPath" path,
      defaulted "interpreter" text, defaulted "executionMode" text,
      defaulted "caseInsensitiveCompletion" flag] v
  return {
    symbolsPath := ← field? members "symbolsPath" path
    keywordsPath := ← field? members "keywordsPath" path
    interpreter := ← field? members "interpreter" text
    executionMode := ← field? members "executionMode" text
    caseInsensitiveCompletion := ← field? members "caseInsensitiveCompletion" flag }

/-- The member that may hold the settings. -/
def sectionName : String := "sagemath"

/-- The settings that a client sent, by themselves or as a section; none if they are malformed. -/
def ofJson (v : Json) : ClientSettings :=
  match decode ((v.member? sectionName).getD v) with
  | .ok settings => settings
  | .error _ => none

end ClientSettings

/-- The settings in force. -/
structure Configuration where
  paths : DataPaths
  interpreter : String
  executionMode : ExecutionMode
  matchCase : MatchCase
deriving DecidableEq, Repr, Inhabited

namespace Configuration

/-- The settings in force before a client has sent any. -/
def start (paths : DataPaths) : Configuration :=
  ⟨paths, defaultInterpreter, .runOnly, .sensitive⟩

/-- The settings in force after new ones; what is missing stays. -/
def apply (c : Configuration) (s : ClientSettings) : Configuration where
  paths := ⟨s.symbolsPath <|> c.paths.symbols, s.keywordsPath <|> c.paths.keywords⟩
  interpreter := s.interpreter.getD c.interpreter
  executionMode := (s.executionMode.map fun mode => .ofSetting (some mode)).getD c.executionMode
  matchCase :=
    (s.caseInsensitiveCompletion.map fun b => if b then .insensitive else .sensitive).getD
      c.matchCase

end Configuration

end SageEditor

/-
Grammar files.

* `writeGrammar` — writes a grammar in place of the file that a path names;
* `injectFiles` — makes the grammar of a symbol file and a template file, and writes it.
-/
import SageEditor.DataStore
import SageEditor.Highlight.Template

namespace SageEditor.Highlight

/-- Why no grammar was written. -/
inductive GrammarError where
  | catalog (e : LoadError)
  | file (p : Path) (e : FileError)
  | template (e : GrammarFault)
deriving DecidableEq, Repr

def GrammarError.message : GrammarError → String
  | .catalog e => e.message
  | .file p e => s!"failed to access {p.display}: {e.message}"
  | .template e => e.message

def writeGrammar (fs : FileSystem) (p : Path) (grammar : String) :
    FileSystem × Except GrammarError Unit :=
  match fs.replace p (Text.Utf8.encode grammar) with
  | (fs, .error e) => (fs, .error (.file p e))
  | (fs, .ok ()) => (fs, .ok ())

/-- The grammar for a symbol file and a template file. -/
def makeGrammar (fs : FileSystem) (symbols template : Path) : Except GrammarError Injection := do
  let catalog ← (fs.load Catalog.parse symbols).mapError .catalog
  let text ← (fs.readText template).mapError (.file template)
  (inject text (.ofCatalog catalog)).mapError .template

def injectFiles (fs : FileSystem) (symbols template output : Path) :
    FileSystem × Except GrammarError Injection :=
  match makeGrammar fs symbols template with
  | .error e => (fs, .error e)
  | .ok injection =>
    match writeGrammar fs output injection.grammar with
    | (fs, .error e) => (fs, .error e)
    | (fs, .ok ()) => (fs, .ok injection)

end SageEditor.Highlight

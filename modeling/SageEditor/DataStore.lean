/-
The data files behind the tables.

* `DataPaths` — where the files are;
* `LanguageData.load` — the tables of the files as they are now, with a `LoadReport`;
* `DataStore` — the tables in use, and the paths from which they are loaded again.

Design notes: a file that cannot be read or parsed gives an empty table, and the report tells
why.  The two files are independent of each other.
-/
import SageEditor.File.System
import SageEditor.LanguageData

namespace SageEditor

inductive LoadFault where
  | unreadable (e : FileError)
  | malformed (e : Json.ReadError)
deriving DecidableEq, Repr

/-- A data file that could not be loaded. -/
structure LoadError where
  path : Path
  fault : LoadFault
deriving DecidableEq, Repr

namespace LoadFault

def message : LoadFault → String
  | unreadable e => e.message
  | malformed e => e.message

end LoadFault

def LoadError.message (e : LoadError) : String :=
  match e.fault with
  | .unreadable cause => s!"failed to read {e.path.display}: {cause.message}"
  | .malformed cause => s!"malformed JSON in {e.path.display}: {cause.message}"

/-- The content of a data file, as `parse` understands it. -/
def FileSystem.load {α : Type} (fs : FileSystem) (parse : String → Except Json.ReadError α)
    (p : Path) : Except LoadError α :=
  match fs.readText p with
  | .error e => .error ⟨p, .unreadable e⟩
  | .ok text =>
    match parse text with
    | .error e => .error ⟨p, .malformed e⟩
    | .ok a => .ok a

/-- Where the data files are; either may be missing. -/
structure DataPaths where
  symbols : Option Path
  keywords : Option Path
deriving DecidableEq, Repr, Inhabited

def DataPaths.none : DataPaths := ⟨.none, .none⟩

/-- Which data files could not be loaded, and why. -/
structure LoadReport where
  symbols : Option LoadError
  keywords : Option LoadError
deriving Repr, Inhabited

def LoadReport.isOk (r : LoadReport) : Bool :=
  r.symbols.isNone && r.keywords.isNone

/-- The value of an attempt, or a substitute and the error. -/
def orElse {ε α : Type} (substitute : α) : Except ε α → α × Option ε
  | .ok a => (a, none)
  | .error e => (substitute, some e)

/-- The table of a file, which is empty without a path or if the file cannot be loaded. -/
def FileSystem.loadTable {α : Type} (fs : FileSystem) (parse : String → Except Json.ReadError α)
    (empty : α) (path : Option Path) : α × Option LoadError :=
  match path with
  | none => (empty, none)
  | some p => orElse empty (fs.load parse p)

def LanguageData.load (fs : FileSystem) (paths : DataPaths) : LanguageData × LoadReport :=
  let (catalog, symbolsError) := fs.loadTable Catalog.parse .empty paths.symbols
  let (keywords, keywordsError) := fs.loadTable Keywords.parse [] paths.keywords
  (⟨catalog, keywords⟩, ⟨symbolsError, keywordsError⟩)

/-- The tables in use and where to load them from. -/
structure DataStore where
  paths : DataPaths
  current : LanguageData
deriving Repr, Inhabited

namespace DataStore

/-- A store of fixed tables, with nothing to load from. -/
def ofData (data : LanguageData) : DataStore := ⟨.none, data⟩

def ofFiles (fs : FileSystem) (paths : DataPaths) : DataStore × LoadReport :=
  let (data, report) := LanguageData.load fs paths
  (⟨paths, data⟩, report)

/-- The store with other paths; the tables stay until the next reload. -/
def setPaths (store : DataStore) (paths : DataPaths) : DataStore :=
  { store with paths := paths }

def reload (store : DataStore) (fs : FileSystem) : DataStore × LoadReport :=
  let (data, report) := LanguageData.load fs store.paths
  ({ store with current := data }, report)

end DataStore

end SageEditor

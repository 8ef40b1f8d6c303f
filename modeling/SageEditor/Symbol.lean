/-
The symbols of the language.

* `Symbol` — a name with its documentation;
* `Catalog` — all symbols, grouped by kind;
* `Catalog.parse`, `Keywords.parse` — the data files, in JSON.

Design notes: a catalog file is an object with a list per group, and a keyword file is a list of
strings.  Groups keep the order of the file and may hold a name more than once.
-/
import SageEditor.Json.Record
import SageEditor.Json.Writer

namespace SageEditor

/-- A named symbol with its documentation, which may be empty. -/
structure Symbol where
  name : String
  doc : String
deriving DecidableEq, Repr, Inhabited

inductive SymbolKind where
  | classSymbol
  | function
  | constant
  | keyword
deriving DecidableEq, Repr, Inhabited

/-- The kind as headings show it. -/
def SymbolKind.title : SymbolKind → String
  | .classSymbol => "Class"
  | .function => "Function"
  | .constant => "Constant"
  | .keyword => "Keyword"

/-- The kind as listings show it. -/
def SymbolKind.label : SymbolKind → String
  | .classSymbol => "class"
  | .function => "function"
  | .constant => "constant"
  | .keyword => "keyword"

/-- All symbols, grouped by kind, in the order of the file. -/
structure Catalog where
  classes : List Symbol
  functions : List Symbol
  constants : List Symbol
deriving DecidableEq, Repr, Inhabited

namespace Catalog

def empty : Catalog := ⟨[], [], []⟩

/-- The groups in the order in which they are searched. -/
def groups (c : Catalog) : List (SymbolKind × List Symbol) :=
  [(.classSymbol, c.classes), (.function, c.functions), (.constant, c.constants)]

def entries (c : Catalog) : List (SymbolKind × Symbol) :=
  c.groups.flatMap fun (kind, symbols) => symbols.map (kind, ·)

def size (c : Catalog) : Nat :=
  c.classes.length + c.functions.length + c.constants.length

end Catalog

/-! ### Data files -/

/-- A symbol in a file: the name is required, the documentation is not. -/
def Symbol.shape : Json.Read.RecordShape String Symbol where
  describe := "struct Symbol"
  fields := ["name", "doc"]
  read := fun _ => Json.Read.text
  build
    | [some name, doc] => .ok ⟨name, doc.getD ""⟩
    | _ => .error 0

/-- A catalog in a file: every group may be missing. -/
def Catalog.shape : Json.Read.RecordShape (List Symbol) Catalog where
  describe := "struct SymbolCatalog"
  fields := ["classes", "functions", "constants"]
  read := Json.Read.list (Json.Read.record Symbol.shape)
  build
    | [classes, functions, constants] =>
      .ok ⟨classes.getD [], functions.getD [], constants.getD []⟩
    | _ => .error 0

def Catalog.parse (text : String) : Except Json.ReadError Catalog :=
  Json.Reader.run (Json.Read.record Catalog.shape Json.Read.maxDepth) text

def Keywords.parse (text : String) : Except Json.ReadError (List String) :=
  Json.Reader.run (Json.Read.list (fun _ => Json.Read.text) Json.Read.maxDepth) text

def Symbol.toJson (s : Symbol) : Json :=
  .object [("name", .string s.name), ("doc", .string s.doc)]

def Catalog.toJson (c : Catalog) : Json :=
  .object [
    ("classes", .array (c.classes.map Symbol.toJson)),
    ("functions", .array (c.functions.map Symbol.toJson)),
    ("constants", .array (c.constants.map Symbol.toJson))]

end SageEditor

/-
Symbols as listings show them.

* `Entry` — a name with its kind and its documentation, if it is to be shown;
* `Entry.lookup`, `Entry.complete` — the answers of a `LanguageData` as entries;
* `Entry.line` — one line of a plain listing.
-/
import SageEditor.LanguageData

namespace SageEditor

/-- A symbol or keyword in a listing. -/
structure Entry where
  name : String
  kind : SymbolKind
  doc : Option String
deriving DecidableEq, Repr, Inhabited

namespace Entry

/-- The entry of a documented symbol. -/
def lookup (data : LanguageData) (name : String) : Option Entry :=
  (data.lookup name).map fun (kind, s) => ⟨s.name, kind, some s.doc⟩

def complete (data : LanguageData) (start : String) (mode : MatchCase) : List Entry :=
  (data.complete start mode).map fun c => ⟨c.name, c.kind, c.doc⟩

/-- The entry as a JSON value, in which missing documentation is left out. -/
def toJson (e : Entry) : Json :=
  let doc := match e.doc with
    | none => []
    | some doc => [("doc", .string doc)]
  .object (("name", .string e.name) :: ("kind", .string e.kind.label) :: doc)

/-- The entry as a line: the name and the kind with a tabulator between them. -/
def line (e : Entry) : String :=
  s!"{e.name}\t{e.kind.label}\n"

def lines (entries : List Entry) : String :=
  String.join (entries.map line)

end Entry

end SageEditor

/-
The tables behind hovers and completions.

* `LanguageData` — a catalog of symbols and a list of keywords;
* `LanguageData.lookup` — the documented symbol of a name;
* `LanguageData.complete` — the symbols and keywords that begin with a prefix, as `Candidate`s.

Design notes: both questions are asked of the catalog in the order of its groups.  A look-up
stops at the first symbol of the name, so an undocumented one hides a documented one behind it.
-/
import SageEditor.Symbol
import SageEditor.Text.Lowercase

namespace SageEditor

/-- Whether the case of letters counts when a prefix is compared. -/
inductive MatchCase where
  | sensitive
  | insensitive
deriving DecidableEq, Repr, Inhabited

namespace MatchCase

/-- The form in which texts are compared. -/
def fold : MatchCase → String → String
  | .sensitive, s => s
  | .insensitive, s => Text.lowercase s

def isPrefix (mode : MatchCase) (start name : String) : Bool :=
  (mode.fold start).toList.isPrefixOf (mode.fold name).toList

end MatchCase

/-- Something a prefix can be completed to. -/
structure Candidate where
  name : String
  kind : SymbolKind
  /-- The documentation; keywords have none. -/
  doc : Option String
deriving DecidableEq, Repr, Inhabited

def Symbol.doc? (s : Symbol) : Option String :=
  if s.doc.isEmpty then none else some s.doc

def Candidate.ofSymbol (kind : SymbolKind) (s : Symbol) : Candidate :=
  ⟨s.name, kind, s.doc?⟩

def Candidate.ofKeyword (word : String) : Candidate :=
  ⟨word, .keyword, none⟩

structure LanguageData where
  catalog : Catalog
  keywords : List String
deriving DecidableEq, Repr, Inhabited

namespace LanguageData

def empty : LanguageData := ⟨.empty, []⟩

/-- The first symbol of a name, with its kind, if it is documented. -/
def lookup (data : LanguageData) (name : String) : Option (SymbolKind × Symbol) :=
  match data.catalog.entries.find? fun entry => entry.2.name == name with
  | none => none
  | some entry => if entry.2.doc.isEmpty then none else some entry

/-- All candidates: the symbols in the order of their groups, then the keywords. -/
def candidates (data : LanguageData) : List Candidate :=
  data.catalog.entries.map (fun (kind, s) => .ofSymbol kind s) ++ data.keywords.map .ofKeyword

def complete (data : LanguageData) (start : String) (mode : MatchCase) : List Candidate :=
  data.candidates.filter fun candidate => mode.isPrefix start candidate.name

end LanguageData

end SageEditor

/-
Grammar templates.

* `Patterns` — the pattern of each group of symbols, as text;
* `inject` — a template with the patterns in place of its placeholders, as an `Injection`;
* `GrammarFault` — why a template gives no grammar.

Design notes: a placeholder is a JSON string with a fixed content, and it is replaced by the
pattern as a JSON string.  The groups are replaced one after the other; each must have a
placeholder in the text it is given, and the result has to be valid JSON.
-/
import SageEditor.Highlight.Pattern
import SageEditor.Symbol
import SageEditor.Text.Occurrence

namespace SageEditor.Highlight

/-- The groups of symbols that a grammar distinguishes. -/
inductive Group where
  | classes
  | functions
  | constants
deriving DecidableEq, Repr, Inhabited

namespace Group

/-- The groups in the order in which they are injected. -/
def all : List Group := [.classes, .functions, .constants]

def kind : Group → SymbolKind
  | .classes => .classSymbol
  | .functions => .function
  | .constants => .constant

/-- The content of a group's placeholder. -/
def placeholder : Group → String
  | .classes => "__SAGE_CLASSES__"
  | .functions => "__SAGE_FUNCTIONS__"
  | .constants => "__SAGE_CONSTANTS__"

/-- The placeholder as it stands in a template: between quotes. -/
def marker (g : Group) : List Char :=
  '"' :: g.placeholder.toList ++ ['"']

def symbols (c : Catalog) : Group → List Symbol
  | .classes => c.classes
  | .functions => c.functions
  | .constants => c.constants

end Group

/-- The written pattern of each group. -/
structure Patterns where
  classes : String
  functions : String
  constants : String
deriving DecidableEq, Repr, Inhabited

namespace Patterns

def ofCatalog (c : Catalog) : Patterns :=
  let pattern (g : Group) : String := (Pattern.ofNames ((g.symbols c).map Symbol.name)).text
  ⟨pattern .classes, pattern .functions, pattern .constants⟩

def get (p : Patterns) : Group → String
  | .classes => p.classes
  | .functions => p.functions
  | .constants => p.constants

end Patterns

/-- A grammar, with the number of placeholders that each group had. -/
structure Injection where
  grammar : String
  replacements : List (Group × Nat)
deriving DecidableEq, Repr, Inhabited

def Injection.total (i : Injection) : Nat :=
  i.replacements.foldr (fun r n => r.2 + n) 0

/-- Why a template gives no grammar. -/
inductive GrammarFault where
  | missingPlaceholder (group : Group)
  | invalidGrammar (e : Json.ReadError)
deriving DecidableEq, Repr

def GrammarFault.message : GrammarFault → String
  | .missingPlaceholder g => s!"placeholder {g.placeholder} not found in grammar template"
  | .invalidGrammar e => s!"grammar output is not valid JSON: {e.message}"

/-- Replaces the placeholders of the groups in turn, and counts them. -/
def substitute (patterns : Patterns) : List Group → List Char →
    Except GrammarFault (List Char × List (Group × Nat))
  | [], text => .ok (text, [])
  | g :: groups, text => do
    -- The patterns of the groups before are in the text already.
    let count := Text.occurrences g.marker text
    if count = 0 then throw (.missingPlaceholder g)
    let text := Text.replace g.marker (Json.quote (patterns.get g)).toList text
    let (text, counts) ← substitute patterns groups text
    return (text, (g, count) :: counts)

/-- The grammar of a template. -/
def inject (template : String) (patterns : Patterns) : Except GrammarFault Injection := do
  let (grammar, counts) ← substitute patterns Group.all template.toList
  let grammar := String.ofList grammar
  match Json.parse grammar with
  | .error e => throw (.invalidGrammar e)
  | .ok _ => return ⟨grammar, counts⟩

end SageEditor.Highlight

/-
What an editor shows for a position in a document.

* `hover` — the documentation of the symbol at a position;
* `completions` — the candidates for what stands before a position.

Design notes: a document that is not open has no hovers and is completed as if it were empty.
-/
import SageEditor.Document
import SageEditor.LanguageData

namespace SageEditor

/-- The documentation of a symbol and the range of the word it is shown for. -/
structure Hover where
  doc : String
  range : Range
deriving DecidableEq, Repr, Inhabited

def hover (d : Document) (data : LanguageData) (p : Position) : Option Hover := do
  let word ← d.wordAt p
  let (_, s) ← data.lookup word.text
  return ⟨s.doc, word.range⟩

def completions (d : Option Document) (data : LanguageData) (p : Position) (mode : MatchCase) :
    List Candidate :=
  data.complete ((d.map (·.prefixAt p)).getD "") mode

/-! ### As JSON values -/

def Position.toJson (p : Position) : Json :=
  Json.mkObject [("line", .ofNat p.line), ("character", .ofNat p.character)]

def Range.toJson (r : Range) : Json :=
  Json.mkObject [("start", r.start.toJson), ("end", r.stop.toJson)]

/-- Documentation as a JSON value. -/
def markdown (doc : String) : Json :=
  Json.mkObject [("kind", .string "markdown"), ("value", .string doc)]

def Hover.toJson (h : Hover) : Json :=
  Json.mkObject [("contents", markdown h.doc), ("range", h.range.toJson)]

/-- The number by which editors know a kind of candidate. -/
def SymbolKind.completionCode : SymbolKind → Nat
  | .classSymbol => 7
  | .function => 3
  | .constant => 21
  | .keyword => 14

def Candidate.toJson (c : Candidate) : Json :=
  let doc := match c.doc with
    | none => []
    | some doc => [("documentation", markdown doc)]
  Json.mkObject ([
    ("label", .string c.name),
    ("kind", .ofNat c.kind.completionCode),
    ("detail", .string s!"(SageMath {c.kind.title})")] ++ doc)

end SageEditor

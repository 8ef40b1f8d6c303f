/-
Hovers and completions of one word.

* `IsSymbolItem` — a completion item, as editors get it, that has a name and is no keyword;
* `find?_complete` — of the candidates for a name, the first symbol is the one that is looked up;
* `hover_completions_agree` — at the end of a word, the first item of its name has the
  documentation that hovering over the word shows, and none if there is nothing to show.

Design notes: both begin with the same word, one by finding it around a position and the other by
finding what ends at a position, so the range of a word is all that ties them.  A name begins with
itself in any case, and keywords come last, so neither filter nor keywords come between.
-/
import Mathlib.Data.List.Find
import SageEditor.Assistance
import SageEditor.Proofs.Document.Word
import SageEditor.Proofs.Json.Object

namespace SageEditor

variable {data : LanguageData} {mode : MatchCase}

/-! ### Items as editors get them -/

/-- An item with the name, and not one of a keyword. -/
def IsSymbolItem (name : String) (item : Json) : Prop :=
  item.member? "label" = some (.string name) ∧
    item.member? "kind" ≠ some (.ofNat SymbolKind.keyword.completionCode)

theorem Hover.member?_contents (h : Hover) :
    h.toJson.member? "contents" = some (markdown h.doc) := by
  simp [Hover.toJson, Json.mkObject, Json.Object.ofList, Json.member?, Json.Object.get?_insert]

theorem Candidate.member?_documentation (c : Candidate) :
    c.toJson.member? "documentation" = c.doc.map markdown := by
  cases hdoc : c.doc <;>
    simp [Candidate.toJson, hdoc, Json.mkObject, Json.Object.ofList, Json.member?,
      Json.Object.get?_insert, Json.Object.get?]

theorem Candidate.member?_label (c : Candidate) :
    c.toJson.member? "label" = some (.string c.name) := by
  cases hdoc : c.doc <;>
    simp [Candidate.toJson, hdoc, Json.mkObject, Json.Object.ofList, Json.member?,
      Json.Object.get?_insert]

theorem Candidate.member?_kind (c : Candidate) :
    c.toJson.member? "kind" = some (.ofNat c.kind.completionCode) := by
  cases hdoc : c.doc <;>
    simp [Candidate.toJson, hdoc, Json.mkObject, Json.Object.ofList, Json.member?,
      Json.Object.get?_insert]

theorem Candidate.isSymbolItem_iff {c : Candidate} {name : String} :
    IsSymbolItem name c.toJson ↔ c.name = name ∧ c.kind ≠ .keyword := by
  rw [IsSymbolItem, Candidate.member?_label, Candidate.member?_kind]
  cases c.kind <;> simp [Json.ofNat, SymbolKind.completionCode]

/-! ### Candidates -/

theorem MatchCase.isPrefix_self (mode : MatchCase) (s : String) : mode.isPrefix s s = true :=
  List.isPrefixOf_iff_prefix.mpr (List.prefix_refl _)

theorem Catalog.kind_ne_keyword {catalog : Catalog} {entry : SymbolKind × Symbol}
    (h : entry ∈ catalog.entries) : entry.1 ≠ .keyword := by
  obtain ⟨group, hgroup, hentry⟩ := List.mem_flatMap.mp h
  obtain ⟨s, -, rfl⟩ := List.mem_map.mp hentry
  simp only [Catalog.groups, List.mem_cons, List.not_mem_nil, or_false] at hgroup
  rcases hgroup with rfl | rfl | rfl <;> exact nofun

/-- The first symbol of a name among the candidates for what begins the name. -/
theorem LanguageData.find?_complete (data : LanguageData) {start name : String}
    (hstart : mode.isPrefix start name = true) :
    (data.complete start mode).find? (fun c => c.name = name ∧ c.kind ≠ .keyword) =
      (data.catalog.entries.find? fun entry => entry.2.name == name).map
        fun entry => .ofSymbol entry.1 entry.2 := by
  have hsymbols : (data.catalog.entries.map fun entry => Candidate.ofSymbol entry.1 entry.2).find?
        (fun c => mode.isPrefix start c.name = true ∧ c.name = name ∧ c.kind ≠ .keyword) =
      (data.catalog.entries.find? fun entry => entry.2.name == name).map
        fun entry => .ofSymbol entry.1 entry.2 := by
    rw [List.find?_map]
    congr 1
    refine List.find?_congr fun entry hentry => ?_
    have hkind := Catalog.kind_ne_keyword hentry
    by_cases hname : entry.2.name = name <;>
      simp [Candidate.ofSymbol, hkind, hname, hstart]
  have hkeywords : (data.keywords.map Candidate.ofKeyword).find?
      (fun c => mode.isPrefix start c.name = true ∧ c.name = name ∧ c.kind ≠ .keyword) = none := by
    simp [Candidate.ofKeyword]
  simp only [complete, List.find?_filter, candidates, List.find?_append, decide_eq_true_eq,
    hsymbols, hkeywords, Option.or_none]

theorem LanguageData.lookup_eq_some_iff {name : String} {entry : SymbolKind × Symbol} :
    data.lookup name = some entry ↔
      data.catalog.entries.find? (fun entry => entry.2.name == name) = some entry ∧
        entry.2.doc.isEmpty = false := by
  rw [lookup]
  cases data.catalog.entries.find? fun entry => entry.2.name == name with
  | none => simp
  | some first =>
    simp only [Option.ite_none_left_eq_some, Bool.not_eq_true, Option.some.injEq]
    constructor
    · rintro ⟨hdoc, rfl⟩
      exact ⟨rfl, hdoc⟩
    · rintro ⟨rfl, hdoc⟩
      exact ⟨hdoc, rfl⟩

/-- The item of the first symbol of a name comes before all other ones of the name. -/
theorem Candidate.exists_items {cs : List Candidate} {c : Candidate} {name : String}
    (h : cs.find? (fun c => c.name = name ∧ c.kind ≠ .keyword) = some c) :
    ∃ before after, cs.map Candidate.toJson = before ++ c.toJson :: after ∧
      (∀ item ∈ before, ¬ IsSymbolItem name item) ∧ IsSymbolItem name c.toJson := by
  obtain ⟨hc, before, after, rfl, hbefore⟩ := List.find?_eq_some_iff_append.mp h
  refine ⟨before.map Candidate.toJson, after.map Candidate.toJson, by simp, ?_,
    Candidate.isSymbolItem_iff.mpr (of_decide_eq_true hc)⟩
  rintro _ hitem
  obtain ⟨b, hb, rfl⟩ := List.mem_map.mp hitem
  rw [Candidate.isSymbolItem_iff]
  simpa only [Bool.not_eq_true', decide_eq_false_iff_not] using hbefore b hb

/-- The first item of a name that is no keyword is that of the first symbol. -/
theorem Candidate.exists_of_items {cs : List Candidate} {name : String} {before after : List Json}
    {item : Json} (h : cs.map Candidate.toJson = before ++ item :: after)
    (hbefore : ∀ i ∈ before, ¬ IsSymbolItem name i) (hitem : IsSymbolItem name item) :
    ∃ c, cs.find? (fun c => c.name = name ∧ c.kind ≠ .keyword) = some c ∧ c.toJson = item := by
  obtain ⟨bs, rest, rfl, rfl, hrest⟩ := List.map_eq_append_iff.mp h
  obtain ⟨c, as, rfl, rfl, rfl⟩ := List.map_eq_cons_iff.mp hrest
  refine ⟨c, List.find?_eq_some_iff_append.mpr ⟨?_, bs, as, rfl, fun b hb => ?_⟩, rfl⟩
  · exact decide_eq_true (Candidate.isSymbolItem_iff.mp hitem)
  · have hno := hbefore _ (List.mem_map_of_mem hb)
    rw [Candidate.isSymbolItem_iff] at hno
    simpa only [Bool.not_eq_true', decide_eq_false_iff_not] using hno

/-! ### Words of a document -/

variable {d : Document} {p : Position} {w : Word}

theorem hover_eq_some_iff {h : Hover} :
    hover d data p = some h ↔ ∃ w entry, d.wordAt p = some w ∧ data.lookup w.text = some entry ∧
      h = ⟨entry.2.doc, w.range⟩ := by
  constructor
  · intro hh
    obtain ⟨w, hw, hh⟩ := Option.bind_eq_some_iff.mp hh
    obtain ⟨entry, hentry, hh⟩ := Option.bind_eq_some_iff.mp hh
    exact ⟨w, entry, hw, hentry, (Option.some.inj hh).symm⟩
  · rintro ⟨w, entry, hw, hentry, rfl⟩
    simp [hover, hw, hentry]

/-- At the end of a word, all of it is completed. -/
theorem completions_stop (h : d.wordAt p = some w) :
    completions (some d) data w.range.stop mode = data.complete w.text mode := by
  obtain ⟨before, word, after, hline, hword, rfl⟩ := Document.exists_of_wordAt h
  rw [completions, Option.map_some, Option.getD_some, Document.prefixAt_wordEnd hline hword]

variable (data mode) in
theorem find?_completions (h : d.wordAt p = some w) :
    (completions (some d) data w.range.stop mode).find?
        (fun c => c.name = w.text ∧ c.kind ≠ .keyword) =
      (data.catalog.entries.find? fun entry => entry.2.name == w.text).map
        fun entry => .ofSymbol entry.1 entry.2 := by
  rw [completions_stop h, LanguageData.find?_complete data (mode.isPrefix_self _)]

/-- **Hovers and completions agree.**  Where hovering over a word shows documentation, the first
item of the word among the completions at its end that is no keyword has the same documentation.
Where it shows none, such an item has none.  Columns have no bound here; by `scanWord_eq` they may
as well be counted in 32 bits on a line of fewer than `2 ^ 32` units. -/
theorem hover_completions_agree (d : Document) (data : LanguageData) (p : Position)
    (mode : MatchCase) :
    (∀ h, hover d data p = some h → ∃ w before item after,
      d.wordAt p = some w ∧ h.range = w.range ∧
      (completions (some d) data h.range.stop mode).map Candidate.toJson =
        before ++ item :: after ∧
      (∀ i ∈ before, ¬ IsSymbolItem w.text i) ∧ IsSymbolItem w.text item ∧
      item.member? "documentation" = some (markdown h.doc) ∧
      h.toJson.member? "contents" = some (markdown h.doc)) ∧
    ∀ w, d.wordAt p = some w → hover d data p = none → ∀ before item after,
      (completions (some d) data w.range.stop mode).map Candidate.toJson =
        before ++ item :: after →
      (∀ i ∈ before, ¬ IsSymbolItem w.text i) → IsSymbolItem w.text item →
      item.member? "documentation" = none := by
  constructor
  · intro h hh
    obtain ⟨w, entry, hw, hlookup, rfl⟩ := hover_eq_some_iff.mp hh
    obtain ⟨hfind, hdoc⟩ := LanguageData.lookup_eq_some_iff.mp hlookup
    have hfirst := find?_completions data mode hw
    rw [hfind, Option.map_some] at hfirst
    obtain ⟨before, after, hitems, hbefore, hitem⟩ := Candidate.exists_items hfirst
    refine ⟨w, before, _, after, hw, rfl, hitems, hbefore, hitem, ?_, Hover.member?_contents _⟩
    rw [Candidate.member?_documentation]
    simp [Candidate.ofSymbol, Symbol.doc?, hdoc]
  · intro w hw hnone before item after hitems hbefore hitem
    obtain ⟨c, hc, rfl⟩ := Candidate.exists_of_items hitems hbefore hitem
    rw [find?_completions data mode hw] at hc
    obtain ⟨entry, hentry, rfl⟩ := Option.map_eq_some_iff.mp hc
    rw [Candidate.member?_documentation]
    -- A documented symbol would have been shown.
    have hdoc : entry.2.doc.isEmpty = true := by
      by_contra hdoc
      have hlookup := LanguageData.lookup_eq_some_iff.mpr ⟨hentry, Bool.not_eq_true _ ▸ hdoc⟩
      have hsome := hover_eq_some_iff.mpr ⟨w, entry, hw, hlookup, rfl⟩
      rw [hnone] at hsome
      cases hsome
    simp [Candidate.ofSymbol, Symbol.doc?, hdoc]

/-- A document with a documented symbol, and one whose documentation is hidden by a namesake. -/
def sample : Document := ⟨"sin+plot"⟩

def sampleData : LanguageData :=
  ⟨⟨[], [⟨"sin", "sine"⟩, ⟨"plot", ""⟩], [⟨"plot", "curve"⟩]⟩, ["sin"]⟩

theorem hover_completions_agree_sample :
    (hover sample sampleData ⟨0, 1⟩ = some ⟨"sine", ⟨0, 0⟩, ⟨0, 3⟩⟩ ∧
      ∃ item ∈ (completions (some sample) sampleData ⟨0, 3⟩ .insensitive).map Candidate.toJson,
        IsSymbolItem "sin" item ∧ item.member? "documentation" = some (markdown "sine")) ∧
    hover sample sampleData ⟨0, 5⟩ = none ∧
      ∃ item ∈ (completions (some sample) sampleData ⟨0, 8⟩ .insensitive).map Candidate.toJson,
        IsSymbolItem "plot" item ∧ item.member? "documentation" = none := by
  have hsin : hover sample sampleData ⟨0, 1⟩ = some ⟨"sine", ⟨0, 0⟩, ⟨0, 3⟩⟩ := by decide +kernel
  have hword : sample.wordAt ⟨0, 1⟩ = some ⟨"sin", ⟨0, 0⟩, ⟨0, 3⟩⟩ := by decide +kernel
  have hplot : hover sample sampleData ⟨0, 5⟩ = none := by decide +kernel
  have hword' : sample.wordAt ⟨0, 5⟩ = some ⟨"plot", ⟨0, 4⟩, ⟨0, 8⟩⟩ := by decide +kernel
  have hitems : completions (some sample) sampleData ⟨0, 8⟩ .insensitive =
      [⟨"plot", .function, none⟩, ⟨"plot", .constant, some "curve"⟩] := by decide +kernel
  obtain ⟨h, -⟩ := hover_completions_agree sample sampleData ⟨0, 1⟩ .insensitive
  obtain ⟨-, h'⟩ := hover_completions_agree sample sampleData ⟨0, 5⟩ .insensitive
  obtain ⟨w, before, item, after, hw, -, heq, -, hitem, hdoc, -⟩ := h _ hsin
  obtain rfl := Option.some.inj (hword.symm.trans hw)
  have hplotItem : IsSymbolItem "plot" (Candidate.toJson ⟨"plot", .function, none⟩) :=
    Candidate.isSymbolItem_iff.mpr ⟨rfl, by decide⟩
  refine ⟨⟨hsin, item, ?_, hitem, hdoc⟩, hplot, _, ?_, hplotItem, ?_⟩
  · rw [heq]
    simp
  · rw [hitems]
    exact List.mem_cons_self
  · exact h' _ hword' hplot [] _ _ (congrArg _ hitems) (by simp) hplotItem

end SageEditor

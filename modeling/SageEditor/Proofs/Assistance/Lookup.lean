/-
Looking up a name by completing what begins it.

* `complete_eq_groups` — the candidates come group by group, and the keywords last;
* `complete_eq_filter` — the candidates for a prefix are those of all that begin with it;
* `lookup_iff_complete` — a look-up finds the first symbol of the name among the candidates for
  any prefix of it, if that symbol is documented.

Design notes: a candidate has its documentation only if there is any, so that one without it is no
answer to a look-up although it is the first of its name.
-/
import SageEditor.Proofs.Assistance.Agreement
import SageEditor.Proofs.Assistance.Narrowing

namespace SageEditor.LanguageData

variable {data : LanguageData}

/-- Each group is filtered by itself, with the kind of the group for what is left. -/
theorem complete_eq_groups (data : LanguageData) (start : String) (mode : MatchCase) :
    data.complete start mode =
      (data.catalog.groups.flatMap fun (kind, symbols) =>
        (symbols.filter fun s => mode.isPrefix start s.name).map (Candidate.ofSymbol kind)) ++
      (data.keywords.filter (mode.isPrefix start)).map Candidate.ofKeyword := by
  rw [complete, candidates, List.filter_append, Catalog.entries, List.map_flatMap,
    List.filter_flatMap, List.filter_map]
  congr 1
  refine List.flatMap_congr fun group _ => ?_
  rw [List.map_map, List.filter_map]
  rfl

theorem complete_empty (data : LanguageData) (mode : MatchCase) :
    data.complete "" mode = data.candidates := by
  rw [complete, List.filter_eq_self]
  intro c _
  cases mode with
  | sensitive => exact MatchCase.isPrefix_sensitive.mpr List.nil_prefix
  | insensitive => exact MatchCase.isPrefix_insensitive.mpr List.nil_prefix

/-- The candidates for a prefix are, in their order, all candidates that begin with it. -/
theorem complete_eq_filter (data : LanguageData) (start : String) :
    data.complete start .sensitive =
      (data.complete "" .sensitive).filter fun c => start.toList <+: c.name.toList := by
  rw [complete_empty, complete]
  refine List.filter_congr fun c _ => ?_
  rw [Bool.eq_iff_iff, MatchCase.isPrefix_sensitive, decide_eq_true_eq]

theorem length_candidates (data : LanguageData) :
    data.candidates.length = data.catalog.size + data.keywords.length := by
  simp [candidates, Catalog.entries, Catalog.groups, Catalog.size, Nat.add_assoc]

/-- A symbol is a candidate with documentation exactly if its documentation is not empty. -/
theorem doc_ofSymbol_eq_some_iff {kind : SymbolKind} {s : Symbol} {doc : String} :
    (Candidate.ofSymbol kind s).doc = some doc ↔ s.doc.isEmpty = false ∧ s.doc = doc := by
  simp [Candidate.ofSymbol, Symbol.doc?]

/-- **Completion determines look-up.**  A name is looked up with a kind and a documentation exactly
if the first candidate of the name that is no keyword, among those for any prefix of the name, has
them.  The candidates for a prefix are, in their order, those of all candidates whose names begin
with it, and all candidates are as many as the entries of the catalog and the keywords. -/
theorem lookup_iff_complete (data : LanguageData) :
    (∀ name start : String, start.toList <+: name.toList → ∀ kind doc,
      (∃ s, data.lookup name = some (kind, s) ∧ s.name = name ∧ s.doc = doc) ↔
        ∃ c, (data.complete start .sensitive).find?
          (fun c => c.name = name ∧ c.kind ≠ .keyword) = some c ∧
          c.kind = kind ∧ c.doc = some doc) ∧
    (∀ start, data.complete start .sensitive =
      (data.complete "" .sensitive).filter fun c => start.toList <+: c.name.toList) ∧
    (data.complete "" .sensitive).length = data.catalog.size + data.keywords.length := by
  refine ⟨fun name start hstart kind doc => ?_, complete_eq_filter data, ?_⟩
  · -- Both sides come down to the first symbol of the name and its documentation.
    rw [find?_complete data (MatchCase.isPrefix_sensitive.mpr hstart)]
    simp only [Option.map_eq_some_iff]
    constructor
    · rintro ⟨s, hlookup, -, hdoc⟩
      obtain ⟨hfind, hsome⟩ := lookup_eq_some_iff.mp hlookup
      exact ⟨_, ⟨_, hfind, rfl⟩, rfl, doc_ofSymbol_eq_some_iff.mpr ⟨hsome, hdoc⟩⟩
    · rintro ⟨-, ⟨⟨kind', s⟩, hfind, rfl⟩, rfl, hdoc⟩
      obtain ⟨hsome, hdoc⟩ := doc_ofSymbol_eq_some_iff.mp hdoc
      exact ⟨s, lookup_eq_some_iff.mpr ⟨hfind, hsome⟩, by simpa using List.find?_some hfind, hdoc⟩
  · rw [complete_empty, length_candidates]

/-- A keyword does not stand for the function of the same name, and the first of two namesakes has
no documentation. -/
theorem lookup_iff_complete_sample :
    (∃ c, (sampleData.complete "s" .sensitive).find?
      (fun c => c.name = "sin" ∧ c.kind ≠ .keyword) = some c ∧
      c.kind = .function ∧ c.doc = some "sine") ∧
    ∀ kind doc, ¬ ∃ c, (sampleData.complete "pl" .sensitive).find?
      (fun c => c.name = "plot" ∧ c.kind ≠ .keyword) = some c ∧ c.kind = kind ∧
      c.doc = some doc := by
  have hsin : sampleData.lookup "sin" = some (.function, ⟨"sin", "sine"⟩) := by decide +kernel
  have hplot : sampleData.lookup "plot" = none := by decide +kernel
  have hs : "s".toList <+: "sin".toList := by decide
  have hpl : "pl".toList <+: "plot".toList := by decide
  refine ⟨((lookup_iff_complete sampleData).1 _ _ hs _ _).mp ⟨_, hsin, rfl, rfl⟩,
    fun kind doc h => ?_⟩
  obtain ⟨s, hlookup, -⟩ := ((lookup_iff_complete sampleData).1 _ _ hpl kind doc).mpr h
  rw [hplot] at hlookup
  cases hlookup

end SageEditor.LanguageData

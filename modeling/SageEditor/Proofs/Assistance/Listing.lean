/-
Listings and what an editor shows for the same text.

* `ShowsAlike`, `DocumentsAlike` — an item or a hover of an editor and an entry of a listing that
  tell the same;
* `wordAt_of_all`, `prefixAt_of_all` — in a document that is one word, the whole word is found at
  every column and completed at its end;
* `completions_and_hovers_listed` — a document that is one word is completed to what a listing has
  for the word, and hovering over it shows what a look-up of the word finds.

Design notes: a word has no line feed in it, so its document has a single line, or none if the
word is empty.  What is told is compared on the JSON values of both sides.
-/
import Mathlib.Data.List.Forall2
import SageEditor.Listing
import SageEditor.Proofs.Assistance.Agreement
import SageEditor.Proofs.Document.Cursor
import SageEditor.Proofs.Text.LineEnding

namespace SageEditor

open Text

/-! ### Items and entries -/

/-- An item of an editor and an entry of a listing with the same name, the same kind and the same
documentation, or both without. -/
def ShowsAlike (item entry : Json) : Prop :=
  ∃ (name : String) (kind : SymbolKind) (doc : Option String),
    item.member? "label" = some (.string name) ∧ entry.member? "name" = some (.string name) ∧
    item.member? "kind" = some (.ofNat kind.completionCode) ∧
    entry.member? "kind" = some (.string kind.label) ∧
    item.member? "documentation" = doc.map markdown ∧ entry.member? "doc" = doc.map Json.string

/-- A hover and an entry of a listing with the same documentation. -/
def DocumentsAlike (hover entry : Json) : Prop :=
  ∃ doc : String, hover.member? "contents" = some (markdown doc) ∧
    entry.member? "doc" = some (.string doc)

theorem Entry.member?_name (e : Entry) : e.toJson.member? "name" = some (.string e.name) := by
  simp [Entry.toJson, Json.member?, Json.Object.get?]

theorem Entry.member?_kind (e : Entry) : e.toJson.member? "kind" = some (.string e.kind.label) := by
  simp [Entry.toJson, Json.member?, Json.Object.get?]

theorem Entry.member?_doc (e : Entry) : e.toJson.member? "doc" = e.doc.map Json.string := by
  cases hdoc : e.doc <;> simp [Entry.toJson, hdoc, Json.member?, Json.Object.get?]

/-- A candidate as an item and as an entry. -/
theorem Candidate.showsAlike (c : Candidate) :
    ShowsAlike c.toJson (Entry.toJson ⟨c.name, c.kind, c.doc⟩) :=
  ⟨c.name, c.kind, c.doc, c.member?_label, Entry.member?_name _, c.member?_kind,
    Entry.member?_kind _, c.member?_documentation, Entry.member?_doc _⟩

/-! ### A document that is one word -/

namespace Document

variable {p : String} {column : ℕ}

theorem line?_of_all (hp : ∀ c ∈ p.toList, isWordChar c = true) :
    (Document.mk p).line? 0 = if p = "" then none else some p.toList := by
  have hnewline : '\n' ∉ p.toList := fun hmem => by
    have hword := hp _ hmem
    rw [isWordChar_newline] at hword
    cases hword
  rw [line?, lines_of_not_mem hnewline]
  by_cases hempty : p = "" <;> simp [hempty]

/-- In a document that is one word, the whole word is found at every column. -/
theorem wordAt_of_all (hp : ∀ c ∈ p.toList, isWordChar c = true) (hne : p ≠ "")
    (hcolumn : column ≤ units16 p.toList) :
    (Document.mk p).wordAt ⟨0, column⟩ = some ⟨p, ⟨0, 0⟩, ⟨0, units16 p.toList⟩⟩ := by
  have hline := line?_of_all hp
  rw [if_neg hne] at hline
  obtain ⟨k, hk⟩ := exists_isColumn hcolumn
  have hspan : IsWordSpan p.toList 0 p.toList.length := by
    refine (isWordSpan_iff_isWord (Nat.zero_le _) le_rfl).mpr ⟨?_, ?_, rfl, ?_⟩
    · simpa using hne
    · simpa using hp
    · simp
  rw [wordAt_eq_some_iff_span hline hk]
  refine ⟨0, p.toList.length, hspan, Nat.zero_le _, hk.le_length, ?_⟩
  simp [spanWord, units16]

/-- In a document that is one word, the whole word is completed at its end. -/
theorem prefixAt_of_all (hp : ∀ c ∈ p.toList, isWordChar c = true) :
    (Document.mk p).prefixAt ⟨0, units16 p.toList⟩ = p := by
  have hline := line?_of_all hp
  by_cases hne : p = ""
  · rw [if_pos hne] at hline
    simp only [prefixAt, hline]
    exact hne.symm
  · rw [if_neg hne] at hline
    have hend : wordEnd ([] ++ p.toList) = p.toList := wordEnd_append hp rfl
    rw [List.nil_append] at hend
    rw [prefixAt_eq_wordEnd hline (.stop rfl rfl), List.take_length, hend, String.ofList_toList]

end Document

/-! ### Both answers -/

/-- **An editor and a listing give the same answers.**  For a text of word characters, the
completions at the end of the document that holds just this text are item by item the entries that
a listing has for it.  If the text is not empty, hovering over it at any column shows something
exactly if a look-up of it finds an entry, and then the documentation of that entry. -/
theorem completions_and_hovers_listed (data : LanguageData) (mode : MatchCase) (p : String)
    (hp : ∀ c ∈ p.toList, isWordChar c = true) :
    List.Forall₂ ShowsAlike
        ((completions (some ⟨p⟩) data ⟨0, units16 p.toList⟩ mode).map Candidate.toJson)
        ((Entry.complete data p mode).map Entry.toJson) ∧
      (p ≠ "" → ∀ column ≤ units16 p.toList,
        Option.Rel DocumentsAlike ((hover ⟨p⟩ data ⟨0, column⟩).map Hover.toJson)
          ((Entry.lookup data p).map Entry.toJson)) := by
  constructor
  · rw [completions, Option.map_some, Option.getD_some, Document.prefixAt_of_all hp,
      Entry.complete, List.map_map, List.forall₂_map_left_iff, List.forall₂_map_right_iff,
      List.forall₂_same]
    exact fun c _ => c.showsAlike
  · intro hne column hcolumn
    simp only [hover, Document.wordAt_of_all hp hne hcolumn, Option.bind_eq_bind, Option.bind_some,
      Entry.lookup]
    cases data.lookup p with
    | none => exact .none
    | some entry =>
      refine .some ⟨entry.2.doc, Hover.member?_contents _, ?_⟩
      exact Entry.member?_doc _

/-- The name of a class is also that of a function and of a keyword, and begins another name if
the case of letters does not count. -/
def fieldData : LanguageData :=
  ⟨⟨[⟨"é𝔽", "field"⟩], [⟨"É𝔽2", ""⟩, ⟨"é𝔽", "other"⟩], []⟩, ["é𝔽"]⟩

theorem completions_and_hovers_listed_field :
    List.Forall₂ ShowsAlike
        ((completions (some ⟨"é𝔽"⟩) fieldData ⟨0, 3⟩ .insensitive).map Candidate.toJson)
        ((Entry.complete fieldData "é𝔽" .insensitive).map Entry.toJson) ∧
      (Entry.complete fieldData "é𝔽" .insensitive).length = 4 ∧
      ∃ shown entry, hover ⟨"é𝔽"⟩ fieldData ⟨0, 2⟩ = some shown ∧
        Entry.lookup fieldData "é𝔽" = some entry ∧
        DocumentsAlike shown.toJson entry.toJson := by
  have hword : "é𝔽".toList.all isWordChar = true := by decide +kernel
  obtain ⟨hitems, hhovers⟩ :=
    completions_and_hovers_listed fieldData .insensitive "é𝔽" (List.all_eq_true.mp hword)
  -- The column lies inside the second character.
  have hhover : hover ⟨"é𝔽"⟩ fieldData ⟨0, 2⟩ = some ⟨"field", ⟨0, 0⟩, ⟨0, 3⟩⟩ := by decide +kernel
  have hlookup : Entry.lookup fieldData "é𝔽" = some ⟨"é𝔽", .classSymbol, some "field"⟩ := by
    decide +kernel
  have halike := hhovers (by decide) 2 (by decide)
  rw [hhover, hlookup] at halike
  refine ⟨hitems, by decide +kernel, _, _, hhover, hlookup, ?_⟩
  cases halike with
  | some h => exact h

end SageEditor

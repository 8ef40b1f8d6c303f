/-
Where a pattern for names matches.

* `StandsAt` — a name stands in a text as a whole word: beside an end of it that is a word
  character there is no further word character;
* `Pattern.equivalent_separate` — one pair of boundaries around a group of names is as good as a
  pair for each name, if all names begin and end with word characters;
* `Pattern.matches_ofNames` — the pattern for names matches what is one of them as a whole word;
* `ofNames_matchesAt_iff` — the same for the pattern read from its text, at every span.

Design notes: the engine that runs a pattern has its own idea of a word character.  Everything up
to `matches_ofNames` asks for agreement on the names only; the text must agree as well before
the neighbours of a name can be classified.
-/
import SageEditor.Proofs.Highlight.Meaning

namespace SageEditor.Highlight

open Text (isWordChar)

/-! ### Whole words -/

/-- The name stands between two parts of a text, and next to an end of it that is a word
character there is no character that `word` counts as one. -/
def Stands (word : Char → Bool) (before name after : List Char) : Prop :=
  (name.head?.any isWordChar = true → before.getLast?.any word = false) ∧
    (name.getLast?.any isWordChar = true → after.head?.any word = false)

/-- The name stands in the text from position `i` to position `j` as a whole word. -/
def StandsAt (name text : List Char) (i j : ℕ) : Prop :=
  i ≤ j ∧ j ≤ text.length ∧ (text.take j).drop i = name ∧
    Stands isWordChar (text.take i) name (text.drop j)

/-- The characters on which `word` and the identifiers of the language agree. -/
def AgreesOn (word : Char → Bool) (cs : List Char) : Prop :=
  ∀ c ∈ cs, word c = isWordChar c

instance (word : Char → Bool) (cs : List Char) : Decidable (AgreesOn word cs) :=
  decidable_of_iff (cs.all fun c => word c == isWordChar c) (by simp [AgreesOn])

namespace AgreesOn

variable {word : Char → Bool} {cs : List Char}

theorem head?_any (h : AgreesOn word cs) : cs.head?.any word = cs.head?.any isWordChar := by
  cases cs with
  | nil => rfl
  | cons c cs => exact h c (by simp)

theorem getLast?_any (h : AgreesOn word cs) :
    cs.getLast?.any word = cs.getLast?.any isWordChar := by
  cases hlast : cs.getLast? with
  | none => rfl
  | some c => exact h c (List.mem_of_getLast? hlast)

theorem stands_iff {before name after : List Char} (hbefore : AgreesOn word before)
    (hafter : AgreesOn word after) :
    Stands word before name after ↔ Stands isWordChar before name after := by
  rw [Stands, Stands, hbefore.getLast?_any, hafter.head?_any]

end AgreesOn

/-! ### Names without boundaries -/

namespace Pattern

variable {word : Char → Bool} {b m a : List Char}

theorem matches_ofChars (cs : List Char) : (ofChars cs).Matches word b m a ↔ m = cs := by
  induction cs generalizing b m with
  | nil => simp [ofChars, Matches]
  | cons c cs ih =>
    rw [show ofChars (c :: cs) = seq (literal c) (ofChars cs) from rfl, Matches]
    constructor
    · rintro ⟨m₁, m₂, rfl, hc, hcs⟩
      rw [ih] at hcs
      rw [hcs, show m₁ = [c] from hc]
      rfl
    · rintro rfl
      exact ⟨[c], cs, rfl, rfl, ih.mpr rfl⟩

theorem matches_oneOf (first : Pattern) (others : List Pattern) :
    (oneOf first others).Matches word b m a ↔
      ∃ p ∈ first :: others, p.Matches word b m a := by
  induction others generalizing first with
  | nil => simp [oneOf]
  | cons next others ih => simp [oneOf, Matches, ih]

/-! ### Boundaries at the ends of a name -/

theorem boundary_append_iff (h : m.head?.any word = true) :
    Boundary word b (m ++ a) ↔ b.getLast?.any word = false := by
  cases m with
  | nil => simp at h
  | cons c m =>
    have hc : word c = true := h
    simp [Boundary, hc]

theorem append_boundary_iff (h : m.getLast?.any word = true) :
    Boundary word (b ++ m) a ↔ a.head?.any word = false := by
  have hm : m ≠ [] := by
    rintro rfl
    simp at h
  rw [Boundary, List.getLast?_append_of_ne_nil b hm, h]
  cases a.head?.any word <;> simp

theorem matches_edge (end? : Option Char) :
    (edge end?).Matches word b m a ↔
      m = [] ∧ (end?.any isWordChar = true → Boundary word b a) := by
  cases end? with
  | none => simp [edge, Matches]
  | some c =>
    by_cases hc : isWordChar c
    · simp [edge, Matches, hc]
    · simp [edge, Matches, hc]

/-- A name with the boundaries that its ends ask for. -/
theorem matches_bounded_iff (name : List Char) :
    (bounded name).Matches word b m a ↔
      m = name ∧ (name.head?.any isWordChar = true → Boundary word b (name ++ a)) ∧
        (name.getLast?.any isWordChar = true → Boundary word (b ++ name) a) := by
  rw [bounded]
  constructor
  · rintro ⟨m₁, _, rfl, h₁, m₂, m₃, rfl, h₂, h₃⟩
    obtain ⟨rfl, hl⟩ := (matches_edge _).mp h₁
    obtain ⟨rfl, hr⟩ := (matches_edge _).mp h₃
    obtain rfl := (matches_ofChars name).mp h₂
    exact ⟨by simp, by simpa using hl, by simpa using hr⟩
  · rintro ⟨rfl, hl, hr⟩
    refine ⟨[], m, rfl, (matches_edge _).mpr ⟨rfl, hl⟩, m, [], by simp, ?_, ?_⟩
    · exact (matches_ofChars m).mpr rfl
    · exact (matches_edge _).mpr ⟨rfl, by simpa using hr⟩

/-- The boundaries of a name see its own ends on their inner sides. -/
theorem matches_bounded {name : List Char} (h : AgreesOn word name) :
    (bounded name).Matches word b m a ↔ m = name ∧ Stands word b name a := by
  have hleft : (name.head?.any isWordChar = true → Boundary word b (name ++ a)) ↔
      (name.head?.any isWordChar = true → b.getLast?.any word = false) :=
    imp_congr_right fun hw => boundary_append_iff (by rw [h.head?_any, hw])
  have hright : (name.getLast?.any isWordChar = true → Boundary word (b ++ name) a) ↔
      (name.getLast?.any isWordChar = true → a.head?.any word = false) :=
    imp_congr_right fun hw => append_boundary_iff (by rw [h.getLast?_any, hw])
  rw [matches_bounded_iff, hleft, hright, Stands]

/-! ### The two forms of a pattern for names -/

theorem matches_enclosed (first : List Char) (others : List (List Char)) :
    (enclosed first others).Matches word b m a ↔
      m ∈ first :: others ∧ Boundary word b (m ++ a) ∧ Boundary word (b ++ m) a := by
  have hnames : (oneOf (ofChars first) (others.map ofChars)).Matches word b m a ↔
      m ∈ first :: others := by
    rw [matches_oneOf, ← List.map_cons]
    simp only [List.mem_map, exists_exists_and_eq_and, matches_ofChars, exists_eq_right']
  constructor
  · rintro ⟨m₁, _, rfl, ⟨rfl, hl⟩, m₂, m₃, rfl, h, ⟨rfl, hr⟩⟩
    simp only [List.nil_append, List.append_nil] at hl hr h hnames ⊢
    exact ⟨hnames.mp h, hl, hr⟩
  · rintro ⟨hm, hl, hr⟩
    refine ⟨[], m, rfl, ⟨rfl, hl⟩, m, [], by simp, ?_, ⟨rfl, by simpa using hr⟩⟩
    rw [Matches]
    simpa using hnames.mpr hm

theorem matches_separate (first : List Char) (others : List (List Char)) :
    (separate first others).Matches word b m a ↔
      ∃ name ∈ first :: others, (bounded name).Matches word b m a := by
  rw [separate, Matches, matches_oneOf, ← List.map_cons]
  simp only [List.mem_map, exists_exists_and_eq_and]

/-- A name that begins and ends with word characters has a boundary at either end. -/
theorem bounded_of_wordEdged {name : List Char} (h : wordEdged name = true) :
    (bounded name).Matches word b m a ↔
      m = name ∧ Boundary word b (m ++ a) ∧ Boundary word (b ++ m) a := by
  obtain ⟨hhead, hlast⟩ := Bool.and_eq_true _ _ ▸ h
  rw [matches_bounded_iff]
  constructor
  · rintro ⟨rfl, hl, hr⟩
    exact ⟨rfl, hl hhead, hr hlast⟩
  · rintro ⟨rfl, hl, hr⟩
    exact ⟨rfl, fun _ => hl, fun _ => hr⟩

/-- One pair of boundaries serves for all names, whatever the engine takes for a word. -/
theorem equivalent_separate {first : List Char} {others : List (List Char)}
    (h : (first :: others).all wordEdged = true) :
    Equivalent (enclosed first others) (separate first others) := by
  intro word b m a
  have hedged : ∀ name ∈ first :: others, wordEdged name = true := by simpa using h
  rw [matches_enclosed, matches_separate]
  constructor
  · rintro ⟨hm, hl, hr⟩
    exact ⟨m, hm, (bounded_of_wordEdged (hedged m hm)).mpr ⟨rfl, hl, hr⟩⟩
  · rintro ⟨name, hname, hmatch⟩
    obtain ⟨rfl, hl, hr⟩ := (bounded_of_wordEdged (hedged name hname)).mp hmatch
    exact ⟨hname, hl, hr⟩

theorem matches_never : ¬ never.Matches word b m a := by
  rintro ⟨m₁, m₂, -, ⟨rfl, hboundary⟩, ⟨rfl, hinterior⟩⟩
  exact hinterior (by simpa using hboundary)

/-! ### Patterns for names -/

theorem equivalent_ofNames {names : List String} {first : List Char} {others : List (List Char)}
    (h : namesToMatch names = first :: others) :
    Equivalent (ofNames names) (separate first others) := by
  rw [ofNames, h]
  dsimp only
  split
  · next hedged => exact equivalent_separate hedged
  · exact .refl _

theorem mem_namesToMatch {names : List String} {cs : List Char} :
    cs ∈ namesToMatch names ↔ ∃ name ∈ names, name ≠ "" ∧ name.toList = cs := by
  have hempty : ∀ name : String, name.toList = [] ↔ name = "" := by
    intro name
    simp
  simp only [namesToMatch, List.mem_filter, List.mem_map, Bool.not_eq_true',
    List.isEmpty_eq_false_iff]
  constructor
  · rintro ⟨⟨name, hname, rfl⟩, hne⟩
    exact ⟨name, hname, fun h => hne ((hempty name).mpr h), rfl⟩
  · rintro ⟨name, hname, hne, rfl⟩
    exact ⟨⟨name, hname, rfl⟩, fun h => hne ((hempty name).mp h)⟩

/-- The pattern for names matches one of them that is not empty, with the boundaries that its ends
ask for. -/
theorem matches_ofNames_iff_bounded {names : List String} :
    (ofNames names).Matches word b m a ↔
      ∃ name ∈ names, name ≠ "" ∧ (bounded name.toList).Matches word b m a := by
  cases hnames : namesToMatch names with
  | nil =>
    have hnone : ¬ ∃ name ∈ names, name ≠ "" ∧ (bounded name.toList).Matches word b m a := by
      rintro ⟨name, hname, hne, -⟩
      have := mem_namesToMatch.mpr ⟨name, hname, hne, rfl⟩
      simp [hnames] at this
    rw [ofNames, hnames]
    exact iff_of_false matches_never hnone
  | cons first others =>
    rw [equivalent_ofNames hnames, matches_separate, ← hnames]
    constructor
    · rintro ⟨_, hmem, hmatch⟩
      obtain ⟨name, hname, hne, rfl⟩ := mem_namesToMatch.mp hmem
      exact ⟨name, hname, hne, hmatch⟩
    · rintro ⟨name, hname, hne, hmatch⟩
      exact ⟨_, mem_namesToMatch.mpr ⟨name, hname, hne, rfl⟩, hmatch⟩

/-- The pattern for names matches one of them that is not empty, as a whole word. -/
theorem matches_ofNames {names : List String}
    (h : ∀ name ∈ names, AgreesOn word name.toList) :
    (ofNames names).Matches word b m a ↔
      ∃ name ∈ names, name ≠ "" ∧ m = name.toList ∧ Stands word b m a := by
  rw [matches_ofNames_iff_bounded]
  refine exists_congr fun name => and_congr_right fun hname => and_congr_right' ?_
  rw [matches_bounded (h name hname)]
  exact and_congr_right fun hm => by rw [hm]

/-! ### Reading the written pattern -/

theorem grouped_ofChars (cs : List Char) : (ofChars cs).Grouped false := by
  induction cs with
  | nil => trivial
  | cons c cs ih => exact ⟨trivial, ih⟩

theorem grouped_edge (end? : Option Char) : (edge end?).Grouped false := by
  cases end? with
  | none => trivial
  | some c =>
    rw [edge]
    split <;> trivial

theorem grouped_bounded (name : List Char) : (bounded name).Grouped false :=
  ⟨grouped_edge _, grouped_ofChars name, grouped_edge _⟩

theorem Grouped.mono {p : Pattern} (h : p.Grouped false) : p.Grouped true := by
  cases p with
  | either p q => exact absurd h.1 (by decide)
  | _ => exact h

theorem grouped_oneOf {first : Pattern} {others : List Pattern}
    (h : ∀ p ∈ first :: others, p.Grouped false) : (oneOf first others).Grouped true := by
  induction others generalizing first with
  | nil => exact (h first (by simp)).mono
  | cons next others ih =>
    exact ⟨rfl, h first (by simp), ih fun p hp => h p (List.mem_cons_of_mem _ hp)⟩

theorem grouped_enclosed (first : List Char) (others : List (List Char)) :
    (enclosed first others).Grouped true := by
  refine ⟨trivial, grouped_oneOf ?_, trivial⟩
  rw [← List.map_cons]
  intro p hp
  obtain ⟨cs, -, rfl⟩ := List.mem_map.mp hp
  exact grouped_ofChars cs

theorem grouped_separate (first : List Char) (others : List (List Char)) :
    (separate first others).Grouped true := by
  refine grouped_oneOf ?_
  rw [← List.map_cons]
  intro p hp
  obtain ⟨name, -, rfl⟩ := List.mem_map.mp hp
  exact grouped_bounded name

theorem grouped_ofNames (names : List String) : (ofNames names).Grouped true := by
  rw [ofNames]
  split
  · exact ⟨trivial, trivial⟩
  · split
    · exact grouped_enclosed _ _
    · exact grouped_separate _ _

end Pattern

open Pattern

/-- **What the written pattern for names matches.**  Read as a regular expression, it matches a
text at exactly the spans where one of the names that are not empty stands as a whole word, for an
engine whose word characters are those of the language on the names and on the text.  Putting the
boundaries around the group or around each name makes no difference when all names begin and end
with word characters, and without a name that is not empty nothing matches. -/
theorem ofNames_matchesAt_iff (word : Char → Bool) (names : List String)
    (hnames : ∀ name ∈ names, AgreesOn word name.toList) :
    ∃ p, Pattern.parse (Pattern.ofNames names).text = some p ∧
      (∀ text, AgreesOn word text → ∀ i j, p.MatchesAt word text i j ↔
        ∃ name ∈ names, name ≠ "" ∧ StandsAt name.toList text i j) ∧
      (∀ first others, (first :: others).all wordEdged = true →
        ∃ q r, Pattern.parse (enclosed first others).text = some q ∧
          Pattern.parse (separate first others).text = some r ∧
          ∀ text i j, q.MatchesAt word text i j ↔ r.MatchesAt word text i j) ∧
      ((∀ name ∈ names, name = "") → ∀ text i j, ¬ p.MatchesAt word text i j) := by
  obtain ⟨p, hparse, hp⟩ := exists_parse_text (grouped_ofNames names)
  refine ⟨p, hparse, fun text htext i j => ?_, fun first others hedged => ?_, ?_⟩
  · have hbefore : AgreesOn word (text.take i) := fun c hc => htext c (List.mem_of_mem_take hc)
    have hafter : AgreesOn word (text.drop j) := fun c hc => htext c (List.mem_of_mem_drop hc)
    rw [hp.matchesAt, MatchesAt, matches_ofNames hnames]
    constructor
    · rintro ⟨hij, hj, name, hname, hne, hm, hstands⟩
      refine ⟨name, hname, hne, hij, hj, hm, ?_⟩
      exact hm ▸ (AgreesOn.stands_iff hbefore hafter).mp hstands
    · rintro ⟨name, hname, hne, hij, hj, hm, hstands⟩
      refine ⟨hij, hj, name, hname, hne, hm, ?_⟩
      exact hm ▸ (AgreesOn.stands_iff hbefore hafter).mpr hstands
  · -- What is read back from either text has the meaning of the pattern that was written.
    obtain ⟨q, hq, hqe⟩ := exists_parse_text (grouped_enclosed first others)
    obtain ⟨r, hr, hre⟩ := exists_parse_text (grouped_separate first others)
    refine ⟨q, r, hq, hr, fun text i j => ?_⟩
    rw [hqe.matchesAt, hre.matchesAt, (equivalent_separate hedged).matchesAt]
  · rintro hempty text i j hmatch
    rw [hp.matchesAt, MatchesAt, matches_ofNames hnames] at hmatch
    obtain ⟨-, -, name, hname, hne, -⟩ := hmatch
    exact hne (hempty name hname)

/-- An engine that knows the word characters of ASCII only. -/
theorem ofNames_matchesAt_ascii :
    ∃ p, Pattern.parse (Pattern.ofNames ["pi", "", "+a"]).text = some p ∧
      p.MatchesAt (fun c => c.isAlphanum || c == '_') ['x', '+', 'a'] 1 3 ∧
      ¬ p.MatchesAt (fun c => c.isAlphanum || c == '_') ['s', 'p', 'i', 'n'] 1 3 := by
  obtain ⟨p, hparse, hmatch, -⟩ :=
    ofNames_matchesAt_iff (fun c => c.isAlphanum || c == '_') ["pi", "", "+a"] (by decide)
  refine ⟨p, hparse, ?_, ?_⟩
  · rw [hmatch _ (by decide)]
    exact ⟨"+a", by decide, by decide, by unfold StandsAt Stands; decide⟩
  · rw [hmatch _ (by decide)]
    unfold StandsAt Stands
    decide

end SageEditor.Highlight

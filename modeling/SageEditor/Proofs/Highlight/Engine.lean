/-
Names as an engine for all of Unicode matches them.

The engine takes for words what is alphabetic, a mark, a decimal digit, a connector or a joiner.
Patterns are written with the word characters of the language, which are the alphabetic and the
numeric ones and the underscore.

* `isEngineWord` — the word characters of the engine;
* `Pattern.matches_alone_iff` — a name on its own is matched exactly if each of its ends that is a
  word character of the language is one of the engine;
* `Pattern.exists_matchesAt_inside_iff` — between two words a name is matched exactly if neither
  of its ends is a word character of the language;
* `ofNames_matchesAt_alone_iff` — both for the pattern read from its text.

Design notes: only the ends of a name matter to its boundaries.  Numbers like `²` that are no
decimal digits are words to the language only, marks and joiners to the engine only.
-/
import Mathlib.Order.Lattice
import SageEditor.Proofs.Highlight.WholeWord
import SageEditor.Text.Mark

namespace SageEditor

namespace Text

/-! ### Word characters of the engine -/

/-- The code points of the category Nd. -/
def decimal : Ranges := [
  (0x30, 0x39), (0x660, 0x669), (0x6f0, 0x6f9), (0x7c0, 0x7c9), (0x966, 0x96f), (0x9e6, 0x9ef),
  (0xa66, 0xa6f), (0xae6, 0xaef), (0xb66, 0xb6f), (0xbe6, 0xbef), (0xc66, 0xc6f), (0xce6, 0xcef),
  (0xd66, 0xd6f), (0xde6, 0xdef), (0xe50, 0xe59), (0xed0, 0xed9), (0xf20, 0xf29), (0x1040, 0x1049),
  (0x1090, 0x1099), (0x17e0, 0x17e9), (0x1810, 0x1819), (0x1946, 0x194f), (0x19d0, 0x19d9),
  (0x1a80, 0x1a89), (0x1a90, 0x1a99), (0x1b50, 0x1b59), (0x1bb0, 0x1bb9), (0x1c40, 0x1c49),
  (0x1c50, 0x1c59), (0xa620, 0xa629), (0xa8d0, 0xa8d9), (0xa900, 0xa909), (0xa9d0, 0xa9d9),
  (0xa9f0, 0xa9f9), (0xaa50, 0xaa59), (0xabf0, 0xabf9), (0xff10, 0xff19), (0x104a0, 0x104a9),
  (0x10d30, 0x10d39), (0x10d40, 0x10d49), (0x11066, 0x1106f), (0x110f0, 0x110f9),
  (0x11136, 0x1113f), (0x111d0, 0x111d9), (0x112f0, 0x112f9), (0x11450, 0x11459),
  (0x114d0, 0x114d9), (0x11650, 0x11659), (0x116c0, 0x116c9), (0x116d0, 0x116e3),
  (0x11730, 0x11739), (0x118e0, 0x118e9), (0x11950, 0x11959), (0x11bf0, 0x11bf9),
  (0x11c50, 0x11c59), (0x11d50, 0x11d59), (0x11da0, 0x11da9), (0x11de0, 0x11de9),
  (0x11f50, 0x11f59), (0x16130, 0x16139), (0x16a60, 0x16a69), (0x16ac0, 0x16ac9),
  (0x16b50, 0x16b59), (0x16d70, 0x16d79), (0x1ccf0, 0x1ccf9), (0x1d7ce, 0x1d7ff),
  (0x1e140, 0x1e149), (0x1e2f0, 0x1e2f9), (0x1e4f0, 0x1e4f9), (0x1e5f1, 0x1e5fa),
  (0x1e950, 0x1e959), (0x1fbf0, 0x1fbf9)]

/-- The code points of the category Pc, which has the underscore. -/
def connecting : Ranges := [
  (0x5f, 0x5f), (0x203f, 0x2040), (0x2054, 0x2054), (0xfe33, 0xfe34), (0xfe4d, 0xfe4f),
  (0xff3f, 0xff3f)]

/-- The code points with the property Join_Control. -/
def joinControl : Ranges := [(0x200c, 0x200d)]

/-- What the engine takes for a part of a word. -/
def isEngineWord (c : Char) : Bool :=
  alphabetic.contains c.toNat || isMark c || decimal.contains c.toNat ||
    connecting.contains c.toNat || joinControl.contains c.toNat

end Text

namespace Highlight

open Text (isWordChar isEngineWord)

/-! ### Names on their own -/

/-- Each end of the name that is a word character of the language is one of the engine. -/
def EndsAgree (word : Char → Bool) (name : List Char) : Prop :=
  (name.head?.any isWordChar = true → name.head?.any word = true) ∧
    (name.getLast?.any isWordChar = true → name.getLast?.any word = true)

namespace Pattern

variable {word : Char → Bool} {names : List String} {p : Pattern}

theorem matches_bounded_alone_iff (name : List Char) :
    (bounded name).Matches word [] name [] ↔ EndsAgree word name := by
  have hleft : Boundary word [] (name ++ []) ↔ name.head?.any word = true := by
    simp [Boundary]
  have hright : Boundary word ([] ++ name) [] ↔ name.getLast?.any word = true := by
    simp [Boundary]
  rw [matches_bounded_iff, hleft, hright, EndsAgree]
  exact and_iff_right rfl

/-- The pattern for names matches one of them on its own exactly if its ends agree, whatever the
other names are. -/
theorem matches_alone_iff {name : String} (hname : name ∈ names) (hne : name ≠ "") :
    (ofNames names).MatchesAt word name.toList 0 name.toList.length ↔
      EndsAgree word name.toList := by
  rw [MatchesAt, List.take_length, List.drop_length, List.drop_zero, List.take_zero,
    matches_ofNames_iff_bounded, ← matches_bounded_alone_iff]
  constructor
  · rintro ⟨-, -, name', -, -, hmatch⟩
    have hsame : name.toList = name'.toList := (matches_bounded_iff _).mp hmatch |>.1
    rwa [← hsame] at hmatch
  · intro hmatch
    exact ⟨Nat.zero_le _, le_rfl, name, hname, hne, hmatch⟩

/-! ### Names inside longer words -/

/-- A span of a text, told by what stands before it, in it and behind it. -/
theorem exists_matchesAt_iff {text : List Char} :
    (∃ i j, p.MatchesAt word text i j) ↔
      ∃ before matched after, before ++ matched ++ after = text ∧
        p.Matches word before matched after := by
  constructor
  · rintro ⟨i, j, hij, -, hmatch⟩
    refine ⟨_, _, _, ?_, hmatch⟩
    have hfront : text.take i = (text.take j).take i := by
      rw [List.take_take, Nat.min_eq_left hij]
    rw [hfront, List.take_append_drop, List.take_append_drop]
  · rintro ⟨before, matched, after, rfl, hmatch⟩
    refine ⟨before.length, (before ++ matched).length, ?_, ?_, ?_⟩
    · simp
    · simp
    · rwa [List.append_assoc, List.take_left, ← List.append_assoc, List.take_left, List.drop_left,
        List.drop_left]

/-- A name that begins with other characters and then with itself consists of these. -/
theorem subset_of_prefix_append {x name : List Char} (hx : x ≠ []) (h : name <+: x ++ name) :
    name ⊆ x := by
  induction hlength : name.length using Nat.strongRecOn generalizing name with
  | ind length ih =>
    rcases Nat.le_total name.length x.length with hle | hle
    · exact (List.prefix_of_prefix_length_le h (List.prefix_append x name) hle).subset
    · obtain ⟨rest, rfl⟩ := List.prefix_of_prefix_length_le (List.prefix_append x name) h hle
      have hpos := List.length_pos_iff.mpr hx
      have hrest : rest ⊆ x := by
        refine ih rest.length ?_ ((List.prefix_append_right_inj x).mp h) rfl
        rw [← hlength, List.length_append]
        omega
      exact List.append_subset.mpr ⟨List.Subset.refl x, hrest⟩

/-- An occurrence of the name that begins in the first copy of `x`. -/
theorem subset_of_append_eq {before name after x : List Char}
    (h : before ++ name ++ after = x ++ name ++ x) (hlt : before.length < x.length) :
    name ⊆ x := by
  rw [List.append_assoc, List.append_assoc] at h
  obtain ⟨rest, rfl⟩ : before <+: x := by
    refine List.prefix_of_prefix_length_le ?_ (List.prefix_append x (name ++ x)) hlt.le
    exact ⟨name ++ after, h⟩
  rw [List.append_assoc, List.append_right_inj, ← List.append_assoc] at h
  have hrest : rest ≠ [] := by
    rintro rfl
    simp at hlt
  have hname : name <+: rest ++ name := by
    refine List.prefix_of_prefix_length_le ⟨after, h⟩ (List.prefix_append _ _) ?_
    simp
  exact List.Subset.trans (subset_of_prefix_append hrest hname)
    (List.subset_append_right before rest)

/-- Between two copies of `x`, the name occurs nowhere else, unless it consists of characters
of `x`. -/
theorem eq_or_subset_of_append_eq {before name after x : List Char}
    (h : before ++ name ++ after = x ++ name ++ x) : before = x ∧ after = x ∨ name ⊆ x := by
  rcases lt_trichotomy before.length x.length with hlt | heq | hgt
  · exact .inr (subset_of_append_eq h hlt)
  · obtain ⟨hfront, rfl⟩ := List.append_inj h (by simp [heq])
    exact .inl ⟨List.append_cancel_right hfront, rfl⟩
  · -- Read from its end, the occurrence begins in the first copy.
    have hreverse := congrArg List.reverse h
    simp only [List.reverse_append, ← List.append_assoc] at hreverse
    have hlength := congrArg List.length h
    simp only [List.length_append] at hlength
    have hsubset := subset_of_append_eq hreverse (by simp only [List.length_reverse]; omega)
    exact .inr fun c hc => List.mem_reverse.mp (hsubset (List.mem_reverse.mpr hc))

theorem head?_any_of_forall {cs : List Char} (hne : cs ≠ []) {q : Char → Bool}
    (hall : ∀ c ∈ cs, q c = true) : cs.head?.any q = true := by
  rw [List.head?_eq_some_head hne]
  exact hall _ (List.head_mem hne)

theorem getLast?_any_of_forall {cs : List Char} (hne : cs ≠ []) {q : Char → Bool}
    (hall : ∀ c ∈ cs, q c = true) : cs.getLast?.any q = true := by
  rw [List.getLast?_eq_some_getLast hne]
  exact hall _ (List.getLast_mem hne)

theorem eq_nil_of_head?_any {cs : List Char} {q : Char → Bool} (hall : ∀ c ∈ cs, q c = true)
    (h : cs.head?.any q = false) : cs = [] := by
  by_contra hne
  rw [head?_any_of_forall hne hall] at h
  cases h

theorem eq_nil_of_getLast?_any {cs : List Char} {q : Char → Bool} (hall : ∀ c ∈ cs, q c = true)
    (h : cs.getLast?.any q = false) : cs = [] := by
  by_contra hne
  rw [getLast?_any_of_forall hne hall] at h
  cases h

/-- Where the name consists of characters of the words around it, all of the text is one word, and
a place in it that is not all of it goes on as a word on some side. -/
theorem any_beside_of_subset {before name after x : List Char} (hx : x ≠ [])
    (hword : ∀ c ∈ x, word c = true) (hsubset : name ⊆ x)
    (htext : before ++ name ++ after = x ++ name ++ x) :
    before.getLast?.any word = true ∨ after.head?.any word = true := by
  have hone : ∀ c ∈ before ++ name ++ after, word c = true := by
    rw [htext]
    simp only [List.mem_append]
    rintro c ((hc | hc) | hc)
    · exact hword c hc
    · exact hword c (hsubset hc)
    · exact hword c hc
  by_contra hnone
  rw [not_or, Bool.not_eq_true, Bool.not_eq_true] at hnone
  obtain rfl := eq_nil_of_getLast?_any (fun c hc => hone c (by simp [hc])) hnone.1
  obtain rfl := eq_nil_of_head?_any (fun c hc => hone c (by simp [hc])) hnone.2
  have hlength := congrArg List.length htext
  have hpos := List.length_pos_iff.mpr hx
  simp only [List.length_append, List.length_nil] at hlength
  omega

/-- Between two words, a name that begins and ends with words of the engine is matched exactly if
neither of its ends asks for a boundary. -/
theorem exists_matchesAt_inside_iff {name x : List Char} (hx : x ≠ [])
    (hall : ∀ c ∈ x, isWordChar c = true ∧ word c = true) (hhead : name.head?.any word = true)
    (hlast : name.getLast?.any word = true) :
    (∃ i j, (bounded name).MatchesAt word (x ++ name ++ x) i j) ↔
      name.head?.any isWordChar = false ∧ name.getLast?.any isWordChar = false := by
  rw [exists_matchesAt_iff]
  constructor
  · rintro ⟨before, matched, after, htext, hmatch⟩
    obtain ⟨rfl, hleft, hright⟩ := (matches_bounded_iff name).mp hmatch
    rw [boundary_append_iff hhead] at hleft
    rw [append_boundary_iff hlast] at hright
    have hword : ∀ c ∈ x, word c = true := fun c hc => (hall c hc).2
    obtain ⟨rfl, rfl⟩ | hsubset := eq_or_subset_of_append_eq htext
    · -- The name is the one between the words, where there is no boundary.
      rw [getLast?_any_of_forall hx hword] at hleft
      rw [head?_any_of_forall hx hword] at hright
      simpa using And.intro hleft hright
    · -- Both ends of the name ask for a boundary, and there is none within the one word.
      exfalso
      have hne : matched ≠ [] := by
        rintro rfl
        simp at hhead
      have hname : ∀ c ∈ matched, isWordChar c = true := fun c hc => (hall c (hsubset hc)).1
      obtain hbeside | hbeside := any_beside_of_subset hx hword hsubset htext
      · rw [hleft (head?_any_of_forall hne hname)] at hbeside
        cases hbeside
      · rw [hright (getLast?_any_of_forall hne hname)] at hbeside
        cases hbeside
  · rintro ⟨hfirst, hend⟩
    refine ⟨x, name, x, rfl, (matches_bounded_iff name).mpr ⟨rfl, ?_, ?_⟩⟩
    · rw [hfirst]
      exact fun h => absurd h (by decide)
    · rw [hend]
      exact fun h => absurd h (by decide)

theorem matchesAt_ofNames_singleton {name : String} (hne : name ≠ "") {text : List Char}
    {i j : ℕ} :
    (ofNames [name]).MatchesAt word text i j ↔ (bounded name.toList).MatchesAt word text i j := by
  rw [MatchesAt, MatchesAt, matches_ofNames_iff_bounded]
  simp [hne]

end Pattern

open Pattern

/-- **Which names the engine matches on their own, and which inside of longer words.**  The pattern
for some names matches one of them on its own exactly if no end of it is a word character of the
language without being one of the engine.  If the name begins and ends with word characters of the
engine, the pattern for this name alone matches between two words exactly if neither of these is a
word character of the language. -/
theorem ofNames_matchesAt_alone_iff (names : List String) :
    ∃ p, Pattern.parse (Pattern.ofNames names).text = some p ∧ ∀ name ∈ names, name ≠ "" →
      (p.MatchesAt isEngineWord name.toList 0 name.toList.length ↔
        EndsAgree isEngineWord name.toList) ∧
      (name.toList.head?.any isEngineWord = true → name.toList.getLast?.any isEngineWord = true →
        ∃ q, Pattern.parse (Pattern.ofNames [name]).text = some q ∧
          ∀ x : List Char, x ≠ [] → (∀ c ∈ x, isWordChar c = true ∧ isEngineWord c = true) →
            ((∃ i j, q.MatchesAt isEngineWord (x ++ name.toList ++ x) i j) ↔
              name.toList.head?.any isWordChar = false ∧
                name.toList.getLast?.any isWordChar = false)) := by
  obtain ⟨p, hparse, hp⟩ := exists_parse_text (grouped_ofNames names)
  refine ⟨p, hparse, fun name hname hne => ⟨?_, fun hhead hlast => ?_⟩⟩
  · rw [hp.matchesAt, matches_alone_iff hname hne]
  · obtain ⟨q, hparse', hq⟩ := exists_parse_text (grouped_ofNames [name])
    refine ⟨q, hparse', fun x hx hall => ?_⟩
    rw [← exists_matchesAt_inside_iff hx hall hhead hlast]
    simp only [hq.matchesAt, matchesAt_ofNames_singleton hne]

/-- A name that is matched on its own beside two that are not, and one that is no part of a longer
word. -/
theorem ofNames_matchesAt_alone_superscript :
    ∃ p, Pattern.parse (Pattern.ofNames ["x²", "²x", "x²x", "pi"]).text = some p ∧
      p.MatchesAt isEngineWord ['x', '²', 'x'] 0 3 ∧ ¬ p.MatchesAt isEngineWord ['x', '²'] 0 2 ∧
      ¬ p.MatchesAt isEngineWord ['²', 'x'] 0 2 ∧
      ∃ q, Pattern.parse (Pattern.ofNames ["pi"]).text = some q ∧
        ¬ ∃ i j, q.MatchesAt isEngineWord ['x', 'p', 'i', 'x'] i j := by
  obtain ⟨p, hparse, hp⟩ := ofNames_matchesAt_alone_iff ["x²", "²x", "x²x", "pi"]
  have hx : ∀ c ∈ ['x'], isWordChar c = true ∧ isEngineWord c = true :=
    List.forall_mem_singleton.mpr (by decide)
  obtain ⟨q, hparse', hq⟩ := (hp "pi" (by decide) (by decide)).2 (by decide) (by decide)
  refine ⟨p, hparse, (hp "x²x" (by decide) (by decide)).1.mpr ?_,
    (hp "x²" (by decide) (by decide)).1.not.mpr ?_, (hp "²x" (by decide) (by decide)).1.not.mpr ?_,
    q, hparse', (hq ['x'] (by decide) hx).not.mpr (by decide)⟩
  all_goals
    unfold EndsAgree
    decide

/-- A number that is no digit does not match itself, and a mark matches inside of a word. -/
theorem not_matchesAt_superscript :
    (∃ p, Pattern.parse (Pattern.ofNames ["²"]).text = some p ∧
      ¬ p.MatchesAt isEngineWord ['²'] 0 1) ∧
    isEngineWord '\u0301' = true ∧
    ∃ p, Pattern.parse (Pattern.ofNames ["\u0301"]).text = some p ∧
      ∃ i j, p.MatchesAt isEngineWord ['x', '\u0301', 'x'] i j := by
  refine ⟨?_, by decide, ?_⟩
  · obtain ⟨p, hparse, hp⟩ := exists_parse_text (grouped_ofNames ["²"])
    have hname : "²" ∈ ["²"] := by decide
    refine ⟨p, hparse, ?_⟩
    rw [hp.matchesAt]
    refine (matches_alone_iff hname (by decide)).not.mpr ?_
    unfold EndsAgree
    decide
  · obtain ⟨p, hparse, hp⟩ := exists_parse_text (grouped_ofNames ["\u0301"])
    refine ⟨p, hparse, ?_⟩
    simp only [hp.matchesAt, matchesAt_ofNames_singleton (by decide : "\u0301" ≠ "")]
    have hword : isEngineWord '\u0301' = true := by decide
    have hx : ∀ c ∈ ['x'], isWordChar c = true ∧ isEngineWord c = true :=
      List.forall_mem_singleton.mpr (by decide)
    exact (exists_matchesAt_inside_iff (List.cons_ne_nil 'x' []) hx
      (List.head?_cons ▸ hword) (List.getLast?_singleton ▸ hword)).mpr (by decide)

end Highlight

end SageEditor

/-
Highlighted words and words at a position.

* `Document.wordAt_of_isWord` — at the column where a word of a line begins, that word is found;
* `units16_inj` — a column belongs to one place of a line;
* `wordAt_span_iff` — when the word found at the column of a span has the range of that span;
* `matchesAt_iff_wordAt` — the pattern for names of word characters matches a line at exactly the
  spans at which a word is found that is one of the names.

Design notes: both sides are brought to one description of a span, the characters before it, in
it and behind it, with `IsWord` for what the boundaries of the pattern and the scan of the
document have in common.
-/
import SageEditor.Proofs.Document.Word
import SageEditor.Proofs.Highlight.WholeWord
import SageEditor.Symbol

namespace SageEditor

open Text

/-! ### Words at the columns of their ends -/

namespace Document

/-- The word that begins at a column. -/
theorem wordAt_of_isWord {d : Document} {n : ℕ} {before word after : List Char}
    (hline : d.line? n = some (before ++ word ++ after)) (hword : IsWord before word after) :
    d.wordAt ⟨n, units16 before⟩ = some ⟨String.ofList word, ⟨n, units16 before⟩,
      ⟨n, units16 (before ++ word)⟩⟩ := by
  -- No part of the word stands before its beginning, and all of it stands behind.
  refine wordAt_eq_some_iff.mpr ⟨before, [], word, after, ?_, ?_, hword, rfl⟩
  · rw [hline, List.append_nil, List.append_assoc]
  · rw [List.append_nil]
    exact isColumn_append before (word ++ after)

end Document

namespace Text

/-- A column belongs to one place of a line. -/
theorem units16_inj {before before' rest rest' : List Char}
    (hline : before ++ rest = before' ++ rest') (h : units16 before = units16 before') :
    before = before' := by
  have hcolumn : IsColumn (before ++ rest) (units16 before) before'.length := by
    rw [hline, h]
    exact isColumn_append before' rest'
  exact (List.append_inj hline ((isColumn_append before rest).unique hcolumn)).1

end Text

/-- The word found at the column of a span has the range of the span exactly if the span is a
word of the line, and then it is that word. -/
theorem wordAt_span_iff {d : Document} {n : ℕ} {before word after : List Char}
    (hline : d.line? n = some (before ++ word ++ after)) {w : Word} :
    (d.wordAt ⟨n, units16 before⟩ = some w ∧
        w.range = ⟨⟨n, units16 before⟩, ⟨n, units16 (before ++ word)⟩⟩) ↔
      IsWord before word after ∧ w = ⟨String.ofList word, ⟨n, units16 before⟩,
        ⟨n, units16 (before ++ word)⟩⟩ := by
  constructor
  · rintro ⟨hw, hrange⟩
    obtain ⟨before', word', after', hline', hword, rfl⟩ := Document.exists_of_wordAt hw
    have hsplit : before ++ word ++ after = before' ++ word' ++ after' :=
      Option.some.inj (hline.symm.trans hline')
    simp only [Range.mk.injEq, Position.mk.injEq, true_and] at hrange
    obtain ⟨hstart, hstop⟩ := hrange
    -- The range determines the word and what stands around it.
    have hfront : before' ++ word' = before ++ word := units16_inj hsplit.symm hstop
    obtain rfl : before' = before := units16_inj hfront hstart
    obtain rfl : word' = word := List.append_cancel_left hfront
    obtain rfl : after = after' := List.append_cancel_left hsplit
    exact ⟨hword, rfl⟩
  · rintro ⟨hword, rfl⟩
    exact ⟨Document.wordAt_of_isWord hline hword, rfl⟩

namespace Highlight

/-- A name of word characters stands as a whole word exactly if it is a word of the text. -/
theorem stands_iff_isWord {before name after : List Char} (hne : name ≠ [])
    (hall : ∀ c ∈ name, isWordChar c = true) :
    Stands isWordChar before name after ↔ IsWord before name after := by
  have hhead : name.head?.any isWordChar = true := by
    rw [List.head?_eq_some_head hne]
    exact hall _ (List.head_mem hne)
  have hlast : name.getLast?.any isWordChar = true := by
    rw [List.getLast?_eq_some_getLast hne]
    exact hall _ (List.getLast_mem hne)
  constructor
  · rintro ⟨hleft, hright⟩
    exact ⟨hne, hall, hleft hhead, hright hlast⟩
  · intro h
    exact ⟨fun _ => h.left, fun _ => h.right⟩

/-- **What is highlighted is what is found at a position.**  For symbols whose names consist of
word characters, the pattern for them, read as a regular expression, matches a line at exactly the
spans for which the word at the column of their beginning is one of the names and has the range of
the span.  Columns have no bound here; by `scanWord_eq` they may as well be counted in 32 bits on a
line of fewer than `2 ^ 32` units. -/
theorem matchesAt_iff_wordAt (symbols : List Symbol)
    (hsymbols : ∀ s ∈ symbols, s.name ≠ "" ∧ ∀ c ∈ s.name.toList, isWordChar c = true) :
    ∃ p, Pattern.parse (Pattern.ofNames (symbols.map Symbol.name)).text = some p ∧
      ∀ (d : Document) (n : ℕ) (line : List Char), d.line? n = some line →
        ∀ i j, i ≤ j → j ≤ line.length →
          (p.MatchesAt isWordChar line i j ↔
            ∃ w, d.wordAt ⟨n, units16 (line.take i)⟩ = some w ∧
              w.range = ⟨⟨n, units16 (line.take i)⟩, ⟨n, units16 (line.take j)⟩⟩ ∧
              ∃ s ∈ symbols, s.name = w.text) := by
  obtain ⟨p, hparse, hp⟩ :=
    Pattern.exists_parse_text (Pattern.grouped_ofNames (symbols.map Symbol.name))
  refine ⟨p, hparse, fun d n line hline i j hij hj => ?_⟩
  have hagree : ∀ name ∈ symbols.map Symbol.name, AgreesOn isWordChar name.toList :=
    fun _ _ _ _ => rfl
  have hfront := take_append_span line hij
  have hword := @wordAt_span_iff d n (line.take i) ((line.take j).drop i) (line.drop j)
    (by rw [hfront, List.take_append_drop, hline])
  rw [hfront] at hword
  rw [hp.matchesAt, Pattern.MatchesAt, Pattern.matches_ofNames hagree]
  constructor
  · rintro ⟨-, -, name, hname, hne, hmatched, hstands⟩
    obtain ⟨s, hs, rfl⟩ := List.mem_map.mp hname
    obtain ⟨-, hall⟩ := hsymbols s hs
    have hne' : (line.take j).drop i ≠ [] := by
      rw [hmatched]
      simpa using hne
    have hisWord := (stands_iff_isWord hne' (hmatched ▸ hall)).mp hstands
    obtain ⟨hw, hrange⟩ := hword.mpr ⟨hisWord, rfl⟩
    exact ⟨_, hw, hrange, s, hs, by simp [hmatched]⟩
  · rintro ⟨w, hw, hrange, s, hs, hname⟩
    obtain ⟨hisWord, rfl⟩ := hword.mp ⟨hw, hrange⟩
    refine ⟨hij, hj, s.name, List.mem_map_of_mem hs, (hsymbols s hs).1, ?_, ?_⟩
    · rw [hname, String.toList_ofList]
    · exact (stands_iff_isWord hisWord.ne_nil hisWord.all).mpr hisWord

/-- The second line has a character of two units before the names; in the first, a name is part
of a longer word. -/
def spinAndPi : Document := ⟨"spin\n😀 pi+é2"⟩

theorem matchesAt_iff_wordAt_spin :
    ∃ p, Pattern.parse (Pattern.ofNames ["pi", "é2"]).text = some p ∧
      p.MatchesAt isWordChar "😀 pi+é2".toList 2 4 ∧
      p.MatchesAt isWordChar "😀 pi+é2".toList 5 7 ∧
      ¬ p.MatchesAt isWordChar "spin".toList 1 3 := by
  have hnames : ∀ s ∈ ([⟨"pi", ""⟩, ⟨"é2", ""⟩] : List Symbol),
      s.name ≠ "" ∧ s.name.toList.all isWordChar = true := by decide +kernel
  obtain ⟨p, hparse, hmatch⟩ := matchesAt_iff_wordAt _ fun s hs =>
    ⟨(hnames s hs).1, List.all_eq_true.mp (hnames s hs).2⟩
  have hfirst : spinAndPi.line? 0 = some "spin".toList := by decide +kernel
  have hsecond : spinAndPi.line? 1 = some "😀 pi+é2".toList := by decide +kernel
  refine ⟨p, hparse, ?_, ?_, fun hspin => ?_⟩
  · refine (hmatch _ _ _ hsecond 2 4 (by decide) (by decide)).mpr ⟨⟨"pi", ⟨1, 3⟩, ⟨1, 5⟩⟩, ?_⟩
    decide +kernel
  · refine (hmatch _ _ _ hsecond 5 7 (by decide) (by decide)).mpr ⟨⟨"é2", ⟨1, 6⟩, ⟨1, 8⟩⟩, ?_⟩
    decide +kernel
  · -- The word at the column of the name is the longer one.
    obtain ⟨w, hw, hrange, -⟩ := (hmatch _ _ _ hfirst 1 3 (by decide) (by decide)).mp hspin
    have hword : spinAndPi.wordAt ⟨0, 1⟩ = some ⟨"spin", ⟨0, 0⟩, ⟨0, 4⟩⟩ := by decide +kernel
    obtain rfl := Option.some.inj (hword.symm.trans hw)
    exact absurd hrange (by decide)

end Highlight

end SageEditor

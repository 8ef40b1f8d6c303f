/-
The names that the text of a pattern spells.

* `Pattern.spelled` — the names that stand between the bars of a text, without the boundaries and
  groups around them;
* `Pattern.spelled_text_ofNames` — from the text of the pattern for some names it reads those that
  are not empty, in order;
* `Pattern.text_ofNames_eq_iff` — so two lists of names have the same text exactly if they have the
  same names that are not empty, in the same order.

Design notes: names may hold bars, parentheses and what a boundary is written with, so a text is
read by its signs and not by its characters.  A sign is a character of a name or none, and this
does not depend on which of its three forms a pattern has.
-/
import SageEditor.Proofs.Highlight.Meaning

namespace SageEditor.Highlight

/-! ### Names between bars -/

/-- Whether a sign is part of a name or ends one; boundaries and groups are neither. -/
def Sign.spells : Sign → Bool
  | .char _ | .bar => true
  | _ => false

/-- The character of a name that a sign is. -/
def Sign.char? : Sign → Option Char
  | .char c => some c
  | _ => none

/-- The names that signs spell. -/
def spelling (signs : List Sign) : List (List Char) :=
  ((signs.filter Sign.spells).splitOn .bar).map (·.filterMap Sign.char?)

theorem spelling_append_bar (signs rest : List Sign) :
    spelling (signs ++ .bar :: rest) = spelling signs ++ spelling rest := by
  have hbar : (Sign.bar :: rest).filter Sign.spells = .bar :: rest.filter Sign.spells := rfl
  rw [spelling, List.filter_append, hbar, List.splitOn_append_cons_self, List.map_append]
  rfl

/-- Signs of one name only. -/
theorem spelling_of_chars {signs : List Sign} {name : List Char}
    (h : signs.filter Sign.spells = name.map .char) : spelling signs = [name] := by
  have hbar : Sign.bar ∉ name.map Sign.char := by simp
  have hchars : (name.map Sign.char).filterMap Sign.char? = name := by
    rw [List.filterMap_map]
    exact List.filterMap_some
  rw [spelling, h, List.splitOn_eq_singleton hbar, List.map_singleton, hchars]

/-- What stands around the names does not matter if it spells nothing. -/
theorem spelling_between {before after : List Sign} (signs : List Sign)
    (hbefore : before.filter Sign.spells = []) (hafter : after.filter Sign.spells = []) :
    spelling (before ++ (signs ++ after)) = spelling signs := by
  rw [spelling, List.filter_append, List.filter_append, hbefore, hafter, List.nil_append,
    List.append_nil, spelling]

namespace Pattern

theorem signs_ofChars (cs : List Char) : (ofChars cs).signs = cs.map .char := by
  induction cs with
  | nil => rfl
  | cons c cs ih =>
    rw [show ofChars (c :: cs) = seq (literal c) (ofChars cs) from rfl, signs, ih]
    rfl

theorem filter_signs_edge (end? : Option Char) : (edge end?).signs.filter Sign.spells = [] := by
  cases end? with
  | none => rfl
  | some c =>
    rw [edge]
    split <;> rfl

theorem spelling_ofChars (name : List Char) : spelling (ofChars name).signs = [name] := by
  apply spelling_of_chars
  rw [signs_ofChars, List.filter_eq_self]
  intro sign hsign
  obtain ⟨c, -, rfl⟩ := List.mem_map.mp hsign
  rfl

/-- Boundaries at the ends of a name are no part of it. -/
theorem spelling_bounded (name : List Char) : spelling (bounded name).signs = [name] := by
  rw [bounded, signs, signs, spelling_between _ (filter_signs_edge _) (filter_signs_edge _),
    spelling_ofChars]

theorem spelling_group (p : Pattern) : spelling (group p).signs = spelling p.signs :=
  spelling_between p.signs (rfl : [Sign.opening].filter Sign.spells = []) rfl

theorem spelling_oneOf (first : Pattern) (others : List Pattern) :
    spelling (oneOf first others).signs = (first :: others).flatMap (spelling ·.signs) := by
  induction others generalizing first with
  | nil => simp [oneOf]
  | cons next others ih =>
    rw [oneOf, signs, spelling_append_bar, ih]
    simp only [List.flatMap_cons]

/-- One pair of boundaries around all names spells nothing. -/
theorem spelling_enclosed (first : List Char) (others : List (List Char)) :
    spelling (enclosed first others).signs = first :: others := by
  have hsigns : (enclosed first others).signs = [.boundary] ++
      ((group (oneOf (ofChars first) (others.map ofChars))).signs ++ [.boundary]) := rfl
  rw [hsigns, spelling_between _ rfl rfl, spelling_group, spelling_oneOf, ← List.map_cons,
    List.flatMap_map]
  simp only [spelling_ofChars, List.flatMap_singleton']

theorem spelling_separate (first : List Char) (others : List (List Char)) :
    spelling (separate first others).signs = first :: others := by
  rw [separate, spelling_group, spelling_oneOf, ← List.map_cons, List.flatMap_map]
  simp only [spelling_bounded, List.flatMap_singleton']

/-! ### Names from a text -/

/-- The names that a text spells, as far as it is the text of a pattern. -/
def spelled (text : String) : List String :=
  (((spelling ((readSigns text.toList).getD [])).filter (!·.isEmpty)).map String.ofList)

theorem spelled_text (p : Pattern) :
    spelled p.text = ((spelling p.signs).filter (!·.isEmpty)).map String.ofList := by
  have hsigns : readSigns p.chars = some p.signs := by
    simpa [readSigns] using readSigns_chars p []
  rw [spelled, text, String.toList_ofList, hsigns, Option.getD_some]

/-- All three forms of a pattern for names spell the names that it is for. -/
theorem spelling_ofNames (names : List String) :
    (spelling (ofNames names).signs).filter (!·.isEmpty) = namesToMatch names := by
  cases hnames : namesToMatch names with
  | nil =>
    rw [ofNames, hnames]
    rfl
  | cons first others =>
    have hspelling : spelling (ofNames names).signs = namesToMatch names := by
      rw [ofNames, hnames]
      dsimp only
      split
      · exact spelling_enclosed first others
      · exact spelling_separate first others
    rw [hspelling, ← hnames, namesToMatch, List.filter_filter]
    simp only [Bool.and_self]

/-- The names that are not empty, apart from how they are represented. -/
theorem namesToMatch_eq (names : List String) :
    namesToMatch names = (names.filter (· ≠ "")).map String.toList := by
  rw [namesToMatch, List.filter_map]
  have hempty : ∀ name : String, (!name.toList.isEmpty) = decide (name ≠ "") := by
    intro name
    rw [Bool.eq_iff_iff]
    simp [List.isEmpty_eq_false_iff]
  exact congrArg (List.map String.toList) (List.filter_congr fun name _ => hempty name)

theorem spelled_text_ofNames (names : List String) :
    spelled (ofNames names).text = names.filter (· ≠ "") := by
  have hid : String.ofList ∘ String.toList = id := funext fun _ => String.ofList_toList
  rw [spelled_text, spelling_ofNames, namesToMatch_eq, List.map_map, hid, List.map_id]

/-- **The text of a pattern loses nothing of its names.**  The names that are not empty are read
back from the text alone, in order and as often as they occur, so two lists have the same text
exactly if they agree on these names. -/
theorem text_ofNames_eq_iff :
    (∀ names, spelled (ofNames names).text = names.filter (· ≠ "")) ∧
      ∀ names names', (ofNames names).text = (ofNames names').text ↔
        names.filter (· ≠ "") = names'.filter (· ≠ "") := by
  refine ⟨spelled_text_ofNames, fun names names' => ⟨fun h => ?_, fun h => ?_⟩⟩
  · rw [← spelled_text_ofNames names, h, spelled_text_ofNames]
  · -- The pattern is made from the names that are not empty.
    rw [ofNames, ofNames, namesToMatch_eq, namesToMatch_eq, h]

end Pattern

end SageEditor.Highlight

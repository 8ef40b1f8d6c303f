/-
Positions on the lines of an editor.

* `wordIn`, `prefixIn` — the word at a position and what is completed there, for given lines;
  `wordAt_eq_wordIn` and `prefixAt_eq_prefixIn` say that the lines of a document give its answers;
* `alike_return_iff` — a line that goes on behind a carriage return gives the same answers as
  without if the part before ends in no word and the other has none;
* `answers_clientLines_iff` — the lines of an editor give the answers of the document at all
  positions exactly if this is so of every lone carriage return and all that follows it.

Design notes: a lone carriage return moves all that follows it to earlier lines of the document.
A word that is moved is found elsewhere, since nothing is moved to a later line.
-/
import SageEditor.Proofs.Document.Word
import SageEditor.Proofs.Text.LineEnding

namespace SageEditor

namespace Text

/-- Characters without a word. -/
def Wordless (cs : List Char) : Prop :=
  ∀ c ∈ cs, isWordChar c = false

variable {cs ds : List Char}

theorem Wordless.of_sublist (h : Wordless ds) (hsub : cs.Sublist ds) : Wordless cs :=
  fun c hc => h c (hsub.subset hc)

theorem wordless_nil : Wordless [] :=
  List.forall_mem_nil _

theorem wordless_append_iff : Wordless (cs ++ ds) ↔ Wordless cs ∧ Wordless ds :=
  List.forall_mem_append

theorem wordless_return_iff : Wordless ('\r' :: cs) ↔ Wordless cs :=
  List.forall_mem_cons.trans (and_iff_right isWordChar_return)

theorem Wordless.head?_any (h : Wordless cs) : cs.head?.any isWordChar = false := by
  cases hhead : cs.head? with
  | none => rfl
  | some c => exact h c (List.mem_of_head? hhead)

theorem Wordless.getLast?_any (h : Wordless cs) : cs.getLast?.any isWordChar = false := by
  cases hlast : cs.getLast? with
  | none => rfl
  | some c => exact h c (List.mem_of_getLast? hlast)

theorem wordEnd_eq_nil_iff : wordEnd cs = [] ↔ cs.getLast?.any isWordChar = false := by
  rw [← not_iff_not, ← ne_eq, wordEnd_ne_nil_iff, Bool.not_eq_false]

theorem Wordless.wordEnd_eq_nil (h : Wordless cs) : wordEnd cs = [] :=
  wordEnd_eq_nil_iff.mpr h.getLast?_any

theorem Wordless.wordStart_eq_nil (h : Wordless cs) : wordStart cs = [] :=
  takeWhile_eq_nil h.head?_any

/-- Characters that end in no word do not matter to the word that ends longer ones. -/
theorem getLast?_any_append (h : cs.getLast?.any isWordChar = false) :
    (cs ++ ds).getLast?.any isWordChar = ds.getLast?.any isWordChar := by
  rw [List.getLast?_append]
  cases ds.getLast? with
  | none => exact h
  | some d => rfl

/-- A word does not go on where characters without a word begin. -/
theorem wordStart_append_of_wordless (h : Wordless ds) : wordStart (cs ++ ds) = wordStart cs := by
  obtain ⟨after, hafter, hword, hends⟩ := exists_wordStart cs
  conv_lhs => rw [hafter, List.append_assoc]
  refine wordStart_append hword ?_
  cases after with
  | nil => exact h.head?_any
  | cons c after => exact hends

/-- Where a column of a longer line lies. -/
theorem charIndex_append (line rest : List Char) (column : ℕ) :
    charIndex (line ++ rest) column =
      if column ≤ units16 line then charIndex line column
      else (charIndex rest (column - units16 line)).map (· + line.length) := by
  induction line generalizing column with
  | nil =>
    cases column with
    | zero => rw [List.nil_append, if_pos (Nat.zero_le _), charIndex, charIndex]
    | succ column => simp [units16]
  | cons c line ih =>
    have hpos := charUnits16_pos c
    by_cases hcolumn : column = 0
    · subst hcolumn
      rw [if_pos (Nat.zero_le _), charIndex, charIndex]
    rw [List.cons_append, charIndex_cons (by omega), charIndex_cons (by omega), units16, ih]
    by_cases hinside : column < charUnits16 c
    · rw [if_pos hinside, if_pos hinside, if_pos (by omega)]
    rw [if_neg hinside, if_neg hinside]
    by_cases hline : column - charUnits16 c ≤ units16 line
    · rw [if_pos hline, if_pos (by omega)]
    · rw [if_neg hline, if_neg (by omega), Option.map_map, Nat.sub_sub]
      rfl

end Text

namespace Document

open Text

/-! ### Answers from lines -/

/-- The word of a line that touches a position. -/
def wordOn (line : List Char) (p : Position) : Option Word := do
  let index ← charIndex line p.character
  let left := wordEnd (line.take index)
  let right := wordStart (line.drop index)
  if left.isEmpty && right.isEmpty then none
  else
    let start := units16 (line.take (index - left.length))
    let stop := start + units16 (left ++ right)
    some ⟨String.ofList (left ++ right), ⟨p.line, start⟩, ⟨p.line, stop⟩⟩

/-- The part of a word of a line that ends at a position. -/
def prefixOn (line : List Char) (p : Position) : String :=
  let index := (charIndex line p.character).getD line.length
  String.ofList (wordEnd (line.take index))

/-- The word that touches a position, for given lines. -/
def wordIn (lines : List (List Char)) (p : Position) : Option Word := do
  let line ← lines[p.line]?
  wordOn line p

/-- The part of a word that ends at a position, for given lines. -/
def prefixIn (lines : List (List Char)) (p : Position) : String :=
  match lines[p.line]? with
  | none => ""
  | some line => prefixOn line p

theorem wordAt_eq_wordIn (d : Document) (p : Position) :
    d.wordAt p = wordIn (lines d.text.toList) p :=
  rfl

theorem prefixAt_eq_prefixIn (d : Document) (p : Position) :
    d.prefixAt p = prefixIn (lines d.text.toList) p :=
  rfl

variable {line line' rest : List Char} {p : Position}

theorem wordOn_of_wordless (h : Wordless line) : wordOn line p = none := by
  rw [wordOn]
  cases charIndex line p.character with
  | none => rfl
  | some index =>
    have hleft := (h.of_sublist (List.take_sublist index line)).wordEnd_eq_nil
    have hright := (h.of_sublist (List.drop_sublist index line)).wordStart_eq_nil
    simp only [Option.bind_eq_bind, Option.bind_some, hleft, hright]
    rfl

theorem prefixOn_of_wordless (h : Wordless line) : prefixOn line p = "" := by
  have hend := (h.of_sublist (List.take_sublist
    ((charIndex line p.character).getD line.length) line)).wordEnd_eq_nil
  simp only [prefixOn, hend, String.ofList_nil]

theorem prefixOn_units16 (cs ds : List Char) (n : ℕ) :
    prefixOn (cs ++ ds) ⟨n, units16 cs⟩ = String.ofList (wordEnd cs) := by
  simp only [prefixOn, charIndex_eq_some_iff.mpr (isColumn_append cs ds), Option.getD_some,
    List.take_left]

theorem prefixOn_beyond (hbeyond : units16 line < p.character) :
    prefixOn line p = String.ofList (wordEnd line) := by
  simp only [prefixOn, charIndex_eq_none_iff.mpr hbeyond, Option.getD_none, List.take_length]

/-- A line that does not exist gives the answers of an empty one. -/
theorem wordIn_eq_wordOn (lines : List (List Char)) (p : Position) :
    wordIn lines p = wordOn (lineOf lines p.line) p := by
  rw [wordIn, lineOf]
  cases lines[p.line]? with
  | none => exact (wordOn_of_wordless wordless_nil).symm
  | some line => rfl

theorem prefixIn_eq_prefixOn (lines : List (List Char)) (p : Position) :
    prefixIn lines p = prefixOn (lineOf lines p.line) p := by
  rw [prefixIn, lineOf]
  cases lines[p.line]? with
  | none => exact (prefixOn_of_wordless wordless_nil).symm
  | some line => rfl

/-- A word that was found as one of another line. -/
def onLine (n : ℕ) (w : Word) : Word :=
  ⟨w.text, ⟨n, w.range.start.character⟩, ⟨n, w.range.stop.character⟩⟩

/-- The number of a line tells nothing but the range of what is found. -/
theorem wordOn_eq_map (line : List Char) (m n column : ℕ) :
    wordOn line ⟨m, column⟩ = (wordOn line ⟨n, column⟩).map (onLine m) := by
  simp only [wordOn]
  cases charIndex line column with
  | none => rfl
  | some index =>
    simp only [Option.bind_eq_bind, Option.bind_some]
    split
    · rfl
    · rfl

/-! ### Lines with the same answers -/

/-- Two lines give the same answers. -/
def Alike (line line' : List Char) : Prop :=
  ∀ p, wordOn line p = wordOn line' p ∧ prefixOn line p = prefixOn line' p

theorem Alike.refl (line : List Char) : Alike line line :=
  fun _ => ⟨rfl, rfl⟩

theorem Alike.symm (h : Alike line line') : Alike line' line :=
  fun p => ⟨(h p).1.symm, (h p).2.symm⟩

theorem Alike.wordless (h : Alike line line') (hline : Wordless line) : Wordless line' := by
  intro c hc
  obtain ⟨before, after, rfl⟩ := List.append_of_mem hc
  -- What is completed behind the character is nothing.
  have hcompleted := (h ⟨0, units16 (before ++ [c])⟩).2
  rw [prefixOn_of_wordless hline, List.append_cons, prefixOn_units16] at hcompleted
  have hend := String.ofList_eq_empty_iff.mp hcompleted.symm
  simpa using wordEnd_eq_nil_iff.mp hend

theorem alike_of_wordless (h : Wordless line) (h' : Wordless line') : Alike line line' := by
  intro p
  rw [wordOn_of_wordless h, wordOn_of_wordless h', prefixOn_of_wordless h, prefixOn_of_wordless h']
  exact ⟨rfl, rfl⟩

/-- Behind the end of a line, a longer line has to complete the same as the line. -/
theorem Alike.wordEnd_eq (h : Alike (line ++ rest) line) (front back : List Char)
    (hrest : rest = front ++ back) (hne : front ≠ []) : wordEnd (line ++ front) = wordEnd line := by
  have hbeyond : units16 line < units16 (line ++ front) := by
    obtain ⟨c, front, rfl⟩ := List.exists_cons_of_ne_nil hne
    have hpos := charUnits16_pos c
    rw [units16_append, units16]
    omega
  have hcompleted := (h ⟨0, units16 (line ++ front)⟩).2
  rw [hrest, ← List.append_assoc, prefixOn_units16, prefixOn_beyond hbeyond] at hcompleted
  exact String.ofList_injective hcompleted

/-- Within a line, characters without a word behind it make no difference. -/
theorem alike_within (hrest : Wordless rest) (hcolumn : p.character ≤ units16 line) :
    wordOn (line ++ rest) p = wordOn line p ∧ prefixOn (line ++ rest) p = prefixOn line p := by
  obtain ⟨n, column⟩ := p
  obtain ⟨k, hk⟩ := exists_isColumn hcolumn
  have hindex := charIndex_eq_some_iff.mpr hk
  have hlong : charIndex (line ++ rest) column = some k := by
    rw [charIndex_append, if_pos hcolumn, hindex]
  have htake : ∀ j ≤ k, (line ++ rest).take j = line.take j := fun j hj =>
    List.take_append_of_le_length (hj.trans hk.le_length)
  have hdrop : wordStart ((line ++ rest).drop k) = wordStart (line.drop k) := by
    rw [List.drop_append_of_le_length hk.le_length, wordStart_append_of_wordless hrest]
  constructor
  · simp only [wordOn, hlong, hindex, Option.bind_eq_bind, Option.bind_some, htake k le_rfl,
      htake _ (Nat.sub_le ..), hdrop]
  · simp only [prefixOn, hlong, hindex, Option.getD_some, htake k le_rfl]

/-- Behind a line that ends in no word, there is no word in such characters and none before a
position. -/
theorem nothing_beyond (hline : line.getLast?.any isWordChar = false) (hrest : Wordless rest)
    (hbeyond : units16 line < p.character) :
    wordOn (line ++ rest) p = none ∧ prefixOn (line ++ rest) p = "" := by
  obtain ⟨n, column⟩ := p
  have hfront : ∀ j, wordEnd (line ++ rest.take j) = [] := fun j => by
    rw [wordEnd_eq_nil_iff, getLast?_any_append hline]
    exact (hrest.of_sublist (List.take_sublist j rest)).getLast?_any
  have hlong := charIndex_append line rest column
  rw [if_neg (not_le.mpr hbeyond)] at hlong
  cases hrestIndex : charIndex rest (column - units16 line) with
  | none =>
    -- The position is behind the characters too, and completion takes it for their end.
    rw [hrestIndex] at hlong
    have hend := hfront rest.length
    rw [List.take_length] at hend
    simp only [wordOn, prefixOn, hlong, Option.map_none, Option.getD_none, List.take_length, hend,
      and_true]
    rfl
  | some j =>
    rw [hrestIndex, Option.map_some, Nat.add_comm] at hlong
    have hback := (hrest.of_sublist (List.drop_sublist j rest)).wordStart_eq_nil
    simp only [wordOn, prefixOn, hlong, Option.bind_eq_bind, Option.bind_some, Option.getD_some,
      List.take_length_add_append, List.drop_length_add_append, hfront, hback,
      and_true]
    rfl

/-- A line that ends in no word gives the same answers as with more characters without a word. -/
theorem alike_append (hline : line.getLast?.any isWordChar = false) (hrest : Wordless rest) :
    Alike (line ++ rest) line := by
  intro p
  rcases le_or_gt p.character (units16 line) with hcolumn | hbeyond
  · exact alike_within hrest hcolumn
  · obtain ⟨hword, hcompleted⟩ := nothing_beyond hline hrest hbeyond
    obtain ⟨hword', hcompleted'⟩ := nothing_beyond hline wordless_nil hbeyond
    rw [List.append_nil] at hword' hcompleted'
    exact ⟨hword.trans hword'.symm, hcompleted.trans hcompleted'.symm⟩

/-- A carriage return and what follows it make no difference to a line exactly if there is no word
on either side. -/
theorem alike_return_iff :
    Alike (line ++ '\r' :: rest) line ↔
      line.getLast?.any isWordChar = false ∧ Wordless rest := by
  constructor
  · intro h
    have hreturn : wordEnd (line ++ ['\r']) = [] :=
      wordEnd_eq_nil_iff.mpr (by rw [List.getLast?_concat]; exact isWordChar_return)
    have hline : wordEnd line = [] := by
      rw [← h.wordEnd_eq ['\r'] rest rfl (List.cons_ne_nil _ _), hreturn]
    refine ⟨wordEnd_eq_nil_iff.mp hline, fun c hc => ?_⟩
    obtain ⟨before, after, rfl⟩ := List.append_of_mem hc
    have hend := h.wordEnd_eq ('\r' :: before ++ [c]) after (by simp) (by simp)
    rw [hline, wordEnd_eq_nil_iff, ← List.append_assoc, List.getLast?_concat] at hend
    exact hend
  · rintro ⟨hline, hrest⟩
    exact alike_append hline (wordless_return_iff.mpr hrest)

theorem answers_iff_alike (lines lines' : List (List Char)) :
    (∀ p, wordIn lines p = wordIn lines' p ∧ prefixIn lines p = prefixIn lines' p) ↔
      ∀ n, Alike (lineOf lines n) (lineOf lines' n) := by
  simp only [wordIn_eq_wordOn, prefixIn_eq_prefixOn]
  constructor
  · rintro h n ⟨m, column⟩
    obtain ⟨hword, hprefix⟩ := h ⟨n, column⟩
    refine ⟨?_, hprefix⟩
    rw [wordOn_eq_map _ m n, wordOn_eq_map _ m n, hword]
  · exact fun h p => h p.line p

/-! ### All lines -/

variable {ending text : List Char}

/-- No word ends at a lone carriage return or stands behind one. -/
def HarmlessReturns (text : List Char) : Prop :=
  ∀ before after, LoneReturn text before after →
    before.getLast?.any isWordChar = false ∧ Wordless after

theorem harmlessReturns_ended_iff (hline : Plain line) (hending : IsEnding ending) :
    HarmlessReturns (line ++ (ending ++ rest)) ↔ HarmlessReturns rest := by
  have hend : (line ++ ending).getLast?.any isWordChar = false := by
    obtain rfl | rfl := hending <;> rw [List.getLast?_append] <;> exact isWordChar_newline
  constructor
  · intro h before after hlone
    have hlonger := h _ after ((loneReturn_ended_iff hline hending).mpr ⟨before, rfl, hlone⟩)
    rwa [← List.append_assoc, getLast?_any_append hend] at hlonger
  · intro h before after hlone
    obtain ⟨before', rfl, hlater⟩ := (loneReturn_ended_iff hline hending).mp hlone
    rw [← List.append_assoc, getLast?_any_append hend]
    exact h before' after hlater

theorem harmlessReturns_returned_iff (hline : Plain line) (hrest : rest.head? ≠ some '\n') :
    HarmlessReturns (line ++ '\r' :: rest) ↔
      line.getLast?.any isWordChar = false ∧ Wordless rest := by
  constructor
  · exact fun h => h line rest ⟨rfl, hrest⟩
  · rintro ⟨hend, hwordless⟩ before after hlone
    obtain ⟨rfl, rfl⟩ | ⟨before', rfl, hlater⟩ := (loneReturn_returned_iff hline hrest).mp hlone
    · exact ⟨hend, hwordless⟩
    · rw [hlater.eq, wordless_append_iff, wordless_return_iff] at hwordless
      rw [getLast?_any_append hend]
      exact ⟨(wordless_return_iff.mpr hwordless.1).getLast?_any, hwordless.2⟩

/-- A text has no word if its first line has none and all others are alike to those of an editor
before them. -/
theorem wordless_iff_alike_succ :
    Wordless text ↔ Wordless (lineOf (lines text) 0) ∧
      ∀ n, Alike (lineOf (lines text) (n + 1)) (lineOf (clientLines text) n) := by
  constructor
  · intro h
    have hlines : ∀ n, Wordless (lineOf (lines text) n) := fun n c hc =>
      h c (mem_of_mem_lineOf_lines hc)
    refine ⟨hlines 0, fun n => alike_of_wordless (hlines _) fun c hc => ?_⟩
    obtain ⟨m, -, hmem⟩ := exists_mem_lineOf_of_clientLines hc
    exact hlines m c hmem
  · rintro ⟨hfirst, halike⟩
    -- Without a word on the lines before, there is none on the line of an editor.
    have hlines : ∀ n, Wordless (lineOf (lines text) n) := by
      intro n
      induction n using Nat.strong_induction_on with
      | _ n ih =>
        cases n with
        | zero => exact hfirst
        | succ n =>
          refine (halike n).symm.wordless fun c hc => ?_
          obtain ⟨m, hm, hmem⟩ := exists_mem_lineOf_of_clientLines hc
          exact ih m (Nat.lt_succ_of_le hm) c hmem
    intro c hc
    by_cases hnewline : c = '\n'
    · exact hnewline ▸ isWordChar_newline
    by_cases hreturn : c = '\r'
    · exact hreturn ▸ isWordChar_return
    · obtain ⟨n, hmem⟩ := exists_mem_lineOf_lines hc hnewline hreturn
      exact hlines n c hmem

theorem alike_lines_iff (text : List Char) :
    (∀ n, Alike (lineOf (lines text) n) (lineOf (clientLines text) n)) ↔
      HarmlessReturns text := by
  induction text using lineInduction with
  | last line hline =>
    simp only [lineOf_lines_last hline, clientLines_last hline]
    exact iff_of_true (fun n => .refl _) fun _ _ hlone =>
      absurd hlone (not_loneReturn_of_plain hline)
  | ended line ending rest hline hending ih =>
    rw [harmlessReturns_ended_iff hline hending, ← ih, lines_ended hline hending,
      clientLines_ended hline hending, ← Nat.and_forall_add_one]
    exact and_iff_right (.refl line)
  | returned line rest hline hrest _ =>
    obtain ⟨hfirst, hlater⟩ := lineOf_lines_returned hline hrest
    rw [harmlessReturns_returned_iff hline hrest, wordless_iff_alike_succ, ← and_assoc,
      ← alike_return_iff, ← hfirst, ← Nat.and_forall_add_one, clientLines_returned hline hrest]
    simp only [hlater, lineOf_cons_zero, lineOf_cons_succ]

/-- **Positions are those of an editor unless a lone carriage return stands in the way.**  With the
lines of an editor, which a line feed, a carriage return and both together end, the word at a
position and what is completed there are those of the document at all positions exactly if no word
ends at a carriage return without a line feed or stands anywhere behind it. -/
theorem answers_clientLines_iff (d : Document) :
    (∀ p, d.wordAt p = wordIn (clientLines d.text.toList) p ∧
        d.prefixAt p = prefixIn (clientLines d.text.toList) p) ↔
      ∀ before after, LoneReturn d.text.toList before after →
        before.getLast?.any isWordChar = false ∧ ∀ c ∈ after, isWordChar c = false := by
  simp only [wordAt_eq_wordIn, prefixAt_eq_prefixIn]
  rw [answers_iff_alike, alike_lines_iff]
  rfl

/-- To an editor, the second letter is the second line. -/
theorem wordAt_lone_return :
    (Document.mk "a\rb").wordAt ⟨1, 0⟩ = none ∧
      wordIn (clientLines "a\rb".toList) ⟨1, 0⟩ = some ⟨"b", ⟨1, 0⟩, ⟨1, 1⟩⟩ ∧
      (Document.mk "a\rb").wordAt ⟨0, 2⟩ = some ⟨"b", ⟨0, 2⟩, ⟨0, 3⟩⟩ ∧
      wordIn (clientLines "a\rb".toList) ⟨0, 2⟩ = none ∧
      (Document.mk "a\rb").prefixAt ⟨1, 1⟩ = "" ∧
      prefixIn (clientLines "a\rb".toList) ⟨1, 1⟩ = "b" := by
  decide +kernel

end Document

end SageEditor

/-
Lines as an editor counts them.

* `clientLines` — a line feed, a carriage return and both of them together end a line, and no part
  of an ending belongs to a line;
* `lineInduction` — a text begins with a line that is its last one, that ends as lines of documents
  do, or that ends with a lone carriage return;
* `lineOf_lines_returned` — a lone carriage return stays within a line of a document, which goes on
  with what is the next line to the editor;
* `exists_mem_lineOf_of_clientLines` — nothing stands on an earlier line of the editor than of the
  document.

Design notes: lines that do not exist count as empty ones, which makes no difference to what is
found on them, so that a last line without characters need not be told from none.
-/
import Mathlib.Data.List.Basic
import SageEditor.Text.Lines

namespace SageEditor.Text

/-- The lines of a text in an editor. -/
def clientLines : List Char → List (List Char)
  | [] => [[]]
  | '\n' :: rest => [] :: clientLines rest
  | '\r' :: '\n' :: rest => [] :: clientLines rest
  | '\r' :: rest => [] :: clientLines rest
  | c :: rest => (clientLines rest).modifyHead (c :: ·)

/-- A line without any part of an ending. -/
def Plain (line : List Char) : Prop :=
  ∀ c ∈ line, c ≠ '\n' ∧ c ≠ '\r'

/-- The endings that lines of documents have as well. -/
def IsEnding (ending : List Char) : Prop :=
  ending = ['\n'] ∨ ending = ['\r', '\n']

variable {line ending rest : List Char}

/-! ### Lines of an editor -/

theorem clientLines_return (h : rest.head? ≠ some '\n') :
    clientLines ('\r' :: rest) = [] :: clientLines rest := by
  rw [clientLines]
  rintro rest' rfl
  exact h rfl

theorem clientLines_append (hline : Plain line) (rest : List Char) :
    clientLines (line ++ rest) = (clientLines rest).modifyHead (line ++ ·) := by
  induction line with
  | nil => exact List.modifyHead_id.symm ▸ rfl
  | cons c line ih =>
    obtain ⟨hnewline, hreturn⟩ := hline c List.mem_cons_self
    rw [List.cons_append, clientLines, ih fun d hd => hline d (List.mem_cons_of_mem c hd),
      List.modifyHead_modifyHead]
    · rfl
    · exact hnewline
    · rintro rest' rfl
      exact absurd rfl hreturn
    · exact hreturn

theorem clientLines_last (hline : Plain line) : clientLines line = [line] := by
  have h := clientLines_append hline []
  rwa [List.append_nil, clientLines, List.modifyHead_cons, List.append_nil] at h

theorem clientLines_ended (hline : Plain line) (hending : IsEnding ending) (rest : List Char) :
    clientLines (line ++ (ending ++ rest)) = line :: clientLines rest := by
  have hfirst : clientLines (ending ++ rest) = [] :: clientLines rest := by
    obtain rfl | rfl := hending <;> rfl
  rw [clientLines_append hline, hfirst, List.modifyHead_cons, List.append_nil]

theorem clientLines_returned (hline : Plain line) (hrest : rest.head? ≠ some '\n') :
    clientLines (line ++ '\r' :: rest) = line :: clientLines rest := by
  rw [clientLines_append hline, clientLines_return hrest, List.modifyHead_cons, List.append_nil]

/-- Induction on the lines of an editor. -/
@[elab_as_elim]
theorem lineInduction {motive : List Char → Prop} (last : ∀ line, Plain line → motive line)
    (ended : ∀ line ending rest, Plain line → IsEnding ending → motive rest →
      motive (line ++ (ending ++ rest)))
    (returned : ∀ line rest, Plain line → rest.head? ≠ some '\n' → motive rest →
      motive (line ++ '\r' :: rest)) (text : List Char) : motive text := by
  -- `line` holds what has been read since the last ending.
  have hread : ∀ line, Plain line → motive (line ++ text) := by
    fun_induction clientLines text with
    | case1 =>
      intro line hline
      rw [List.append_nil]
      exact last line hline
    | case2 rest ih => exact fun line hline => ended line ['\n'] rest hline (.inl rfl) (ih [] nofun)
    | case3 rest ih =>
      exact fun line hline => ended line ['\r', '\n'] rest hline (.inr rfl) (ih [] nofun)
    | case4 rest hrest ih =>
      -- The return is alone, as the clause for both parts of an ending has been passed over.
      refine fun line hline => returned line rest hline (fun hhead => ?_) (ih [] nofun)
      obtain ⟨rest', rfl⟩ := List.head?_eq_some_iff.mp hhead
      exact hrest rest' rfl
    | case5 c rest hnewline _ hreturn ih =>
      intro line hline
      have hextended := ih (line ++ [c])
      rw [List.append_assoc, List.singleton_append] at hextended
      exact hextended (List.forall_mem_append.mpr
        ⟨hline, List.forall_mem_singleton.mpr ⟨hnewline, hreturn⟩⟩)
  exact hread [] nofun

/-! ### Lines of a document -/

/-- The characters of a line, none if there is no such line. -/
def lineOf (lines : List (List Char)) (n : ℕ) : List Char :=
  lines[n]?.getD []

@[simp] theorem lineOf_cons_zero (line : List Char) (lines : List (List Char)) :
    lineOf (line :: lines) 0 = line :=
  rfl

@[simp] theorem lineOf_cons_succ (line : List Char) (lines : List (List Char)) (n : ℕ) :
    lineOf (line :: lines) (n + 1) = lineOf lines n :=
  rfl

/-- Characters other than line feeds are read on to the current line. -/
theorem linesFrom_append (hline : '\n' ∉ line) (read rest : List Char) :
    linesFrom read (line ++ rest) = linesFrom (line.reverse ++ read) rest := by
  induction line generalizing read with
  | nil => rfl
  | cons c line ih =>
    rw [List.cons_append, linesFrom, ih fun hmem => hline (List.mem_cons_of_mem c hmem),
      List.reverse_cons, List.append_assoc, List.singleton_append]
    rintro rfl
    exact hline List.mem_cons_self

/-- A text without a line feed has one line, or none if it is empty. -/
theorem lines_of_not_mem (hline : '\n' ∉ line) :
    lines line = if line = [] then [] else [line] := by
  have hread := linesFrom_append hline [] []
  rw [List.append_nil, List.append_nil] at hread
  rw [lines, hread, linesFrom, List.reverse_reverse]
  simp

theorem Plain.newline_not_mem (hline : Plain line) : '\n' ∉ line :=
  fun hmem => (hline _ hmem).1 rfl

theorem stripReturn_cons {c : Char} (hc : c ≠ '\r') (read : List Char) :
    stripReturn (c :: read) = c :: read := by
  rw [stripReturn]
  rintro read' heq
  exact hc (List.cons.inj heq).1

theorem stripReturn_append {read : List Char} (hread : read ≠ []) (before : List Char) :
    stripReturn (read ++ before) = stripReturn read ++ before := by
  obtain ⟨c, read, rfl⟩ := List.exists_cons_of_ne_nil hread
  by_cases hc : c = '\r'
  · rw [hc]
    rfl
  · rw [List.cons_append, stripReturn_cons hc, stripReturn_cons hc, List.cons_append]

theorem stripReturn_reverse (hline : Plain line) : stripReturn line.reverse = line.reverse := by
  cases hread : line.reverse with
  | nil => rfl
  | cons c read =>
    have hc : c ∈ line := List.mem_reverse.mp (hread ▸ List.mem_cons_self)
    exact stripReturn_cons (hline c hc).2 read

theorem lines_ended (hline : Plain line) (hending : IsEnding ending) (rest : List Char) :
    lines (line ++ (ending ++ rest)) = line :: lines rest := by
  rw [lines, linesFrom_append hline.newline_not_mem, List.append_nil]
  obtain rfl | rfl := hending
  · rw [List.singleton_append, linesFrom, stripReturn_reverse hline, List.reverse_reverse, lines]
  · -- The carriage return is read with the line and stripped as part of the ending.
    change (stripReturn ('\r' :: line.reverse)).reverse :: linesFrom [] rest = _
    rw [stripReturn, List.reverse_reverse, lines]

/-- What has been read of the last line is all of it. -/
theorem lineOf_linesFrom_nil (read : List Char) (n : ℕ) :
    lineOf (linesFrom read []) n = lineOf [read.reverse] n := by
  cases read with
  | nil => cases n <;> rfl
  | cons c read => rw [linesFrom, List.isEmpty_cons, if_neg Bool.false_ne_true]

theorem lineOf_lines_last (hline : Plain line) (n : ℕ) :
    lineOf (lines line) n = lineOf [line] n := by
  rw [lines_of_not_mem hline.newline_not_mem]
  cases line with
  | nil => cases n <;> rfl
  | cons c line => rw [if_neg (List.cons_ne_nil c line)]

/-- Characters that are read before those of a line stand before them and leave the other lines as
they are, if the last of them is not part of the ending. -/
theorem lineOf_linesFrom_append (before read : List Char)
    (h : read ≠ [] ∨ rest.head? ≠ some '\n') :
    lineOf (linesFrom (read ++ before) rest) 0 =
        before.reverse ++ lineOf (linesFrom read rest) 0 ∧
      ∀ n, lineOf (linesFrom (read ++ before) rest) (n + 1) =
        lineOf (linesFrom read rest) (n + 1) := by
  induction rest generalizing read with
  | nil => simp [lineOf_linesFrom_nil]
  | cons c rest ih =>
    by_cases hc : c = '\n'
    · -- What is stripped at the ending was read last, so it is none of the characters before.
      subst hc
      have hread : read ≠ [] := h.resolve_right (by simp)
      simp [linesFrom, stripReturn_append hread]
    · have hread := ih (c :: read) (.inl (List.cons_ne_nil _ _))
      rw [linesFrom, linesFrom]
      · exact hread
      · exact hc
      · exact hc

/-- A lone carriage return stays in its line, which goes on with what follows. -/
theorem lineOf_lines_returned (hline : Plain line) (hrest : rest.head? ≠ some '\n') :
    lineOf (lines (line ++ '\r' :: rest)) 0 = line ++ '\r' :: lineOf (lines rest) 0 ∧
      ∀ n, lineOf (lines (line ++ '\r' :: rest)) (n + 1) = lineOf (lines rest) (n + 1) := by
  have hread : lines (line ++ '\r' :: rest) = linesFrom ('\r' :: line.reverse) rest := by
    rw [lines, linesFrom_append hline.newline_not_mem, List.append_nil]
    rfl
  have h := lineOf_linesFrom_append ('\r' :: line.reverse) [] (.inr hrest)
  rw [hread]
  simpa [lines] using h

/-! ### Characters of lines -/

variable {c : Char} {text : List Char} {n : ℕ}

theorem mem_of_mem_lineOf_lines (h : c ∈ lineOf (lines text) n) : c ∈ text := by
  induction text using lineInduction generalizing n with
  | last line hline =>
    rw [lineOf_lines_last hline] at h
    cases n with
    | zero => exact h
    | succ n => cases h
  | ended line ending rest hline hending ih =>
    rw [lines_ended hline hending] at h
    cases n with
    | zero => exact List.mem_append_left _ h
    | succ n => exact List.mem_append_right _ (List.mem_append_right _ (ih h))
  | returned line rest hline hrest ih =>
    obtain ⟨hfirst, hlater⟩ := lineOf_lines_returned hline hrest
    cases n with
    | zero =>
      rw [hfirst, List.mem_append, List.mem_cons] at h
      rw [List.mem_append, List.mem_cons]
      exact h.imp_right (Or.imp_right ih)
    | succ n =>
      rw [hlater] at h
      exact List.mem_append_right _ (List.mem_cons_of_mem _ (ih h))

/-- Every other character of a text than those of endings is on a line. -/
theorem exists_mem_lineOf_lines (h : c ∈ text) (hnewline : c ≠ '\n') (hreturn : c ≠ '\r') :
    ∃ n, c ∈ lineOf (lines text) n := by
  induction text using lineInduction with
  | last line hline => exact ⟨0, by rwa [lineOf_lines_last hline]⟩
  | ended line ending rest hline hending ih =>
    rw [lines_ended hline hending]
    obtain hmem | hmem := List.mem_append.mp h
    · exact ⟨0, hmem⟩
    obtain hmem | hmem := List.mem_append.mp hmem
    · obtain rfl | rfl := hending <;> simp_all
    · obtain ⟨n, hn⟩ := ih hmem
      exact ⟨n + 1, hn⟩
  | returned line rest hline hrest ih =>
    obtain ⟨hfirst, hlater⟩ := lineOf_lines_returned hline hrest
    obtain hmem | hmem := List.mem_append.mp h
    · exact ⟨0, hfirst ▸ List.mem_append_left _ hmem⟩
    obtain ⟨n, hn⟩ := ih ((List.mem_cons.mp hmem).resolve_left hreturn)
    cases n with
    | zero => exact ⟨0, hfirst ▸ List.mem_append_right _ (List.mem_cons_of_mem _ hn)⟩
    | succ n => exact ⟨n + 1, hlater n ▸ hn⟩

/-- What an editor has on some line, the document has on this line or on an earlier one. -/
theorem exists_mem_lineOf_of_clientLines (h : c ∈ lineOf (clientLines text) n) :
    ∃ m ≤ n, c ∈ lineOf (lines text) m := by
  induction text using lineInduction generalizing n with
  | last line hline =>
    rw [clientLines_last hline, ← lineOf_lines_last hline] at h
    exact ⟨n, Nat.le_refl _, h⟩
  | ended line ending rest hline hending ih =>
    rw [clientLines_ended hline hending] at h
    rw [lines_ended hline hending]
    cases n with
    | zero => exact ⟨0, Nat.le_refl _, h⟩
    | succ n =>
      obtain ⟨m, hm, hmem⟩ := ih h
      exact ⟨m + 1, Nat.succ_le_succ hm, hmem⟩
  | returned line rest hline hrest ih =>
    obtain ⟨hfirst, hlater⟩ := lineOf_lines_returned hline hrest
    rw [clientLines_returned hline hrest] at h
    cases n with
    | zero => exact ⟨0, Nat.le_refl _, hfirst ▸ List.mem_append_left _ h⟩
    | succ n =>
      obtain ⟨m, hm, hmem⟩ := ih h
      cases m with
      | zero =>
        refine ⟨0, Nat.zero_le _, ?_⟩
        rw [hfirst]
        exact List.mem_append_right _ (List.mem_cons_of_mem _ hmem)
      | succ m =>
        refine ⟨m + 1, Nat.le_trans hm (Nat.le_succ n), ?_⟩
        rwa [hlater]

/-! ### Lone carriage returns -/

/-- A text has a carriage return between these characters that no line feed follows. -/
structure LoneReturn (text before after : List Char) : Prop where
  eq : text = before ++ '\r' :: after
  alone : after.head? ≠ some '\n'

variable {before after : List Char}

theorem loneReturn_cons_iff :
    LoneReturn (c :: rest) before after ↔
      (before = [] ∧ c = '\r' ∧ after = rest ∧ rest.head? ≠ some '\n') ∨
        ∃ before', before = c :: before' ∧ LoneReturn rest before' after := by
  constructor
  · rintro ⟨heq, halone⟩
    cases before with
    | nil =>
      obtain ⟨rfl, rfl⟩ := List.cons.inj heq
      exact .inl ⟨rfl, rfl, rfl, halone⟩
    | cons d before =>
      obtain ⟨rfl, hrest⟩ := List.cons.inj heq
      exact .inr ⟨before, rfl, hrest, halone⟩
  · rintro (⟨rfl, rfl, rfl, halone⟩ | ⟨before', rfl, rfl, halone⟩)
    · exact ⟨rfl, halone⟩
    · exact ⟨rfl, halone⟩

/-- No carriage return stands in a line. -/
theorem loneReturn_append_iff (hline : Plain line) :
    LoneReturn (line ++ rest) before after ↔
      ∃ before', before = line ++ before' ∧ LoneReturn rest before' after := by
  induction line generalizing before with
  | nil => simp
  | cons c line ih =>
    obtain ⟨-, hreturn⟩ := hline c List.mem_cons_self
    have hplain : Plain line := fun d hd => hline d (List.mem_cons_of_mem c hd)
    rw [List.cons_append, loneReturn_cons_iff]
    simp only [ih hplain, hreturn, false_and, and_false, false_or, List.cons_append]
    constructor
    · rintro ⟨_, rfl, before', rfl, hlone⟩
      exact ⟨before', rfl, hlone⟩
    · rintro ⟨before', rfl, hlone⟩
      exact ⟨_, rfl, before', rfl, hlone⟩

theorem not_loneReturn_of_plain (hline : Plain line) : ¬ LoneReturn line before after := by
  rintro ⟨rfl, -⟩
  exact (hline '\r' (by simp)).2 rfl

theorem loneReturn_ended_iff (hline : Plain line) (hending : IsEnding ending) :
    LoneReturn (line ++ (ending ++ rest)) before after ↔
      ∃ before', before = line ++ (ending ++ before') ∧ LoneReturn rest before' after := by
  rw [loneReturn_append_iff hline]
  obtain rfl | rfl := hending <;> simp [loneReturn_cons_iff]

theorem loneReturn_returned_iff (hline : Plain line) (hrest : rest.head? ≠ some '\n') :
    LoneReturn (line ++ '\r' :: rest) before after ↔
      before = line ∧ after = rest ∨
        ∃ before', before = line ++ '\r' :: before' ∧ LoneReturn rest before' after := by
  simp only [loneReturn_append_iff hline, loneReturn_cons_iff, true_and]
  constructor
  · rintro ⟨_, rfl, ⟨rfl, rfl, -⟩ | ⟨before', rfl, hlone⟩⟩
    · exact .inl ⟨List.append_nil line, rfl⟩
    · exact .inr ⟨before', rfl, hlone⟩
  · rintro (⟨rfl, rfl⟩ | ⟨before', rfl, hlone⟩)
    · exact ⟨[], (List.append_nil before).symm, .inl ⟨rfl, rfl, hrest⟩⟩
    · exact ⟨_, rfl, .inr ⟨before', rfl, hlone⟩⟩

end SageEditor.Text

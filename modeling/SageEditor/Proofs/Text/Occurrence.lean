/-
Occurrences of a piece of text and their replacement.

* `positions` — the number of places in a text where a needle stands, overlapping ones included;
* `join_pieces` — a text is its pieces with the needle between them;
* `occurrences_pos_iff` — an occurrence is found exactly if the needle stands somewhere;
* `pieces_join` — pieces are found again if the needle stands nowhere else;
* `reflTransGen_replace` — a replacement is a sequence of replacements at one place.

Design notes: the search passes over what it finds, so it can miss an occurrence that overlaps an
earlier one.  `positions` does not, and where both counts agree the pieces are determined.
-/
import Mathlib.Data.List.Infix
import Mathlib.Logic.Relation
import SageEditor.Text.Occurrence

namespace SageEditor.Text

/-- The number of places in a text where the needle stands. -/
def positions (needle : List Char) : List Char → ℕ
  | [] => 0
  | c :: rest => (if needle.isPrefixOf (c :: rest) then 1 else 0) + positions needle rest

/-- Pieces with a text in front of each but the first. -/
def join (new : List Char) (p : List Char × List (List Char)) : List Char :=
  p.1 ++ p.2.flatMap (new ++ ·)

/-- One place where the old text stands has the new one instead. -/
def Rewrite (old new : List Char) (s t : List Char) : Prop :=
  ∃ x y, s = x ++ (old ++ y) ∧ t = x ++ (new ++ y)

variable {needle new text rest : List Char} {c : Char}

theorem join_cons (c : Char) (first : List Char) (others : List (List Char)) :
    join new (c :: first, others) = c :: join new (first, others) := rfl

theorem join_nil_cons (first : List Char) (others : List (List Char)) :
    join new ([], first :: others) = new ++ join new (first, others) := by
  simp [join]

/-! ### The search -/

theorem piecesFrom_eq_pieces (needle : List Char) (skip : ℕ) (text : List Char) :
    piecesFrom needle skip text = pieces needle (text.drop skip) := by
  induction text generalizing skip with
  | nil => cases skip <;> simp [pieces, piecesFrom]
  | cons c rest ih =>
    cases skip with
    | zero => rfl
    | succ skip => rw [piecesFrom, ih, List.drop_succ_cons]

theorem pieces_append (hne : needle ≠ []) (rest : List Char) :
    pieces needle (needle ++ rest) =
      ([], (pieces needle rest).1 :: (pieces needle rest).2) := by
  obtain ⟨c, cs, rfl⟩ := List.exists_cons_of_ne_nil hne
  have hstands : (c :: cs).isPrefixOf (c :: (cs ++ rest)) = true := by
    rw [List.isPrefixOf_iff_prefix]
    exact List.prefix_append (c :: cs) rest
  rw [List.cons_append, pieces, piecesFrom, if_pos hstands, piecesFrom_eq_pieces]
  simp

theorem pieces_cons (h : ¬ needle <+: c :: rest) :
    pieces needle (c :: rest) = (c :: (pieces needle rest).1, (pieces needle rest).2) := by
  rw [pieces, piecesFrom, if_neg (by rwa [List.isPrefixOf_iff_prefix])]
  rfl

/-- The cases of the search: the text ends, the needle is found, or it is not. -/
theorem search_induction (hne : needle ≠ []) {motive : List Char → Prop} (nil : motive [])
    (found : ∀ rest, motive rest → motive (needle ++ rest))
    (other : ∀ c rest, ¬ needle <+: c :: rest → motive rest → motive (c :: rest))
    (text : List Char) : motive text := by
  induction hlength : text.length using Nat.strong_induction_on generalizing text with
  | _ n ih =>
    subst hlength
    -- What is found is passed over as a whole, so the induction is on the length.
    by_cases hstands : needle <+: text
    · obtain ⟨rest, rfl⟩ := hstands
      have := List.length_pos_of_ne_nil hne
      exact found rest (ih _ (by simp; omega) rest rfl)
    · cases text with
      | nil => exact nil
      | cons c rest => exact other c rest hstands (ih _ (by simp) rest rfl)

/-- The pieces of a text, with the needle between them. -/
theorem join_pieces (hne : needle ≠ []) (text : List Char) :
    join needle (pieces needle text) = text := by
  induction text using search_induction hne with
  | nil => rfl
  | found rest ih => rw [pieces_append hne, join_nil_cons, ih]
  | other c rest h ih => rw [pieces_cons h, join_cons, ih]

theorem occurrences_pos_iff (hne : needle ≠ []) (text : List Char) :
    0 < occurrences needle text ↔ needle <:+: text := by
  induction text using search_induction hne with
  | nil => simp [occurrences, pieces, piecesFrom, hne]
  | found rest ih =>
    rw [occurrences, pieces_append hne]
    exact iff_of_true (by simp) (List.prefix_append needle rest).isInfix
  | other c rest h ih =>
    rw [List.infix_cons_iff, ← ih, occurrences, pieces_cons h]
    simp [h, occurrences]

/-! ### Positions -/

theorem positions_cons_pos (h : needle <+: c :: rest) :
    positions needle (c :: rest) = positions needle rest + 1 := by
  rw [positions, if_pos (by rwa [List.isPrefixOf_iff_prefix]), Nat.add_comm]

theorem positions_cons_neg (h : ¬ needle <+: c :: rest) :
    positions needle (c :: rest) = positions needle rest := by
  rw [positions, if_neg (by rwa [List.isPrefixOf_iff_prefix]), Nat.zero_add]

theorem positions_le_append (needle x text : List Char) :
    positions needle text ≤ positions needle (x ++ text) := by
  induction x with
  | nil => exact le_rfl
  | cons c x ih =>
    rw [List.cons_append, positions]
    omega

theorem positions_pos_iff (hne : needle ≠ []) (text : List Char) :
    0 < positions needle text ↔ needle <:+: text := by
  induction text with
  | nil => simp [positions, hne]
  | cons c rest ih =>
    rw [List.infix_cons_iff, ← ih]
    by_cases h : needle <+: c :: rest
    · simp [positions_cons_pos h, h]
    · simp [positions_cons_neg h, h]

theorem positions_eq_zero_iff (hne : needle ≠ []) (text : List Char) :
    positions needle text = 0 ↔ ¬ needle <:+: text := by
  rw [← positions_pos_iff hne]
  omega

theorem positions_lt_append (hne : needle ≠ []) (text : List Char) :
    positions needle text < positions needle (needle ++ text) := by
  obtain ⟨c, cs, rfl⟩ := List.exists_cons_of_ne_nil hne
  have hle := positions_le_append (c :: cs) cs text
  have hstands : c :: cs <+: c :: (cs ++ text) := List.prefix_append (c :: cs) text
  rw [List.cons_append, positions_cons_pos hstands]
  omega

/-- The needle stands before each piece but the first. -/
theorem length_le_positions_join (hne : needle ≠ []) (p : List Char × List (List Char)) :
    p.2.length ≤ positions needle (join needle p) := by
  obtain ⟨first, others⟩ := p
  induction others generalizing first with
  | nil => simp
  | cons next others ih =>
    have hlt := positions_lt_append hne (join needle (next, others))
    have hle := positions_le_append needle first (needle ++ join needle (next, others))
    have hjoin : join needle (first, next :: others) =
        first ++ (needle ++ join needle (next, others)) := by simp [join]
    rw [hjoin, List.length_cons]
    have := ih next
    dsimp only at this
    omega

/-- If the needle stands nowhere else, the pieces are those that the search finds. -/
theorem pieces_join (hne : needle ≠ []) (first : List Char) (others : List (List Char))
    (h : positions needle (join needle (first, others)) = others.length) :
    pieces needle (join needle (first, others)) = (first, others) := by
  match first, others with
  | [], [] => rfl
  | [], next :: others =>
    rw [join_nil_cons] at h ⊢
    have hle : others.length ≤ positions needle (join needle (next, others)) :=
      length_le_positions_join hne (next, others)
    have hlt := positions_lt_append hne (join needle (next, others))
    rw [List.length_cons] at h
    rw [pieces_append hne, pieces_join hne next others (by omega)]
  | c :: first, others =>
    rw [join_cons] at h ⊢
    have hle : others.length ≤ positions needle (join needle (first, others)) :=
      length_le_positions_join hne (first, others)
    -- An occurrence here would be one more than there are pieces.
    have hno : ¬ needle <+: c :: join needle (first, others) := by
      intro hstands
      rw [positions_cons_pos hstands] at h
      omega
    rw [positions_cons_neg hno] at h
    rw [pieces_cons hno, pieces_join hne first others h]
termination_by (others.length, first.length)

/-! ### Replacement -/

theorem replace_eq_join (needle new text : List Char) :
    replace needle new text = join new (pieces needle text) := rfl

theorem reflTransGen_join (old new x first : List Char) (others : List (List Char)) :
    Relation.ReflTransGen (Rewrite old new) (x ++ join old (first, others))
      (x ++ join new (first, others)) := by
  induction others generalizing x first with
  | nil => exact .refl
  | cons next others ih =>
    have hstep : Rewrite old new (x ++ join old (first, next :: others))
        (x ++ (first ++ (new ++ join old (next, others)))) :=
      ⟨x ++ first, join old (next, others), by simp [join], by simp⟩
    have hrest := ih (x ++ first ++ new) next
    simp only [List.append_assoc] at hrest
    refine .head hstep ?_
    rw [show join new (first, next :: others) = first ++ (new ++ join new (next, others)) by
      simp [join]]
    exact hrest

/-- A replacement puts the new text in place of the needle at one place after the other. -/
theorem reflTransGen_replace (hne : needle ≠ []) (new text : List Char) :
    Relation.ReflTransGen (Rewrite needle new) text (replace needle new text) := by
  have h := reflTransGen_join needle new [] (pieces needle text).1 (pieces needle text).2
  rwa [Prod.eta, List.nil_append, List.nil_append, join_pieces hne, ← replace_eq_join] at h

end SageEditor.Text

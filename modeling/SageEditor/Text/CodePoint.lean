/-
Sets of code points as tables of ranges.

* `Ranges.contains` — membership in a table, by a walk that stops at the first range beyond the
  code point;
* `Ranges.contains_iff` — on a table in increasing order this is membership in one of the ranges.

Design notes: a table is plain data, so that a property of characters can be evaluated by the
kernel; the tables themselves live in one module per property.
-/

namespace SageEditor.Text

/-- A set of code points as inclusive ranges, meant to be in increasing order. -/
abbrev Ranges := List (Nat × Nat)

def Ranges.contains : Ranges → Nat → Bool
  | [], _ => false
  | (first, last) :: rest, n =>
    if n < first then false else if n ≤ last then true else Ranges.contains rest n

/-- A table is ordered when every range begins after the one before it has ended. -/
def Ranges.Ordered (rs : Ranges) : Prop :=
  rs.Pairwise fun r s => r.1 ≤ r.2 ∧ r.2 < s.1 ∧ s.1 ≤ s.2

theorem Ranges.contains_iff {rs : Ranges} (h : rs.Ordered) (n : Nat) :
    rs.contains n = true ↔ ∃ r ∈ rs, r.1 ≤ n ∧ n ≤ r.2 := by
  induction rs with
  | nil => simp [Ranges.contains]
  | cons r rest ih =>
    obtain ⟨first, last⟩ := r
    have hrest := ih (List.Pairwise.of_cons h)
    have hlater := (List.pairwise_cons.mp h).1
    by_cases hlow : n < first
    · simp only [Ranges.contains, hlow, if_true, Bool.false_eq_true, false_iff, not_exists, not_and]
      intro r hr hle
      rcases List.mem_cons.mp hr with rfl | hr
      · omega
      · have := hlater r hr
        simp only at this
        omega
    · by_cases hhigh : n ≤ last
      · simp only [Ranges.contains, hlow, hhigh, if_false, if_true, true_iff]
        exact ⟨(first, last), by simp, by omega, hhigh⟩
      · simp only [Ranges.contains, hlow, hhigh, if_false, hrest, List.mem_cons]
        constructor
        · rintro ⟨r, hr, hn⟩
          exact ⟨r, .inr hr, hn⟩
        · rintro ⟨r, rfl | hr, hn⟩
          · simp only at hn
            omega
          · exact ⟨r, hr, hn⟩

end SageEditor.Text

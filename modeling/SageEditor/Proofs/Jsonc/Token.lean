/-
What the scanner of JSON with comments takes.

* `length_lt_of_next` — every token takes a character, so that the reader comes to an end.
-/
import SageEditor.Jsonc.Token
import SageEditor.Proofs.Json.Grammar

namespace SageEditor.Jsonc.Scan

open Json (bind_eq_ok)

variable {cs rest : List Char} {t : Token}

/-! ### Tokens take characters -/

theorem length_le_of_skipFrom {gap : Gap} {start : List Char}
    (h : skipFrom gap start cs = .ok rest) : rest.length ≤ cs.length := by
  fun_induction skipFrom gap start cs with
  | case1 => cases h
  | case2 =>
    obtain rfl := Except.ok.inj h
    exact le_refl _
  | case6 =>
    obtain rfl := Except.ok.inj h
    exact le_refl _
  | _ => simp_all; try omega

theorem length_lt_of_stringRest {double : Bool} {start read : List Char} {s : String}
    (h : stringRest double start read cs = .ok (s, rest)) : rest.length < cs.length := by
  fun_induction stringRest double start read cs with
  | case4 read a b c d cs n hn ch hch ih =>
    have hlt := ih h
    simp only [List.length_cons]
    omega
  | case7 read c cs hu _ hquote ch hch ih =>
    have hlt := ih h
    simp only [List.length_cons]
    omega
  | case9 =>
    obtain ⟨-, rfl⟩ := Prod.mk.inj (Except.ok.inj h)
    simp
  | case10 read c cs _ _ _ hquote ih =>
    have hlt := ih h
    simp only [List.length_cons]
    omega
  | _ => cases h

theorem length_lt_of_number (h : number cs = .ok (t, rest)) : rest.length < cs.length := by
  unfold number at h
  split at h
  · next n rest' hscan =>
    obtain ⟨-, rfl⟩ := Prod.mk.inj (Except.ok.inj h)
    obtain ⟨-, taken, rfl, -, hread⟩ := Json.Numeral.took_of_scan hscan
    have hne : taken ≠ [] := by
      rintro rfl
      cases hread [] Json.delimited_nil
    have hpos := List.length_pos_of_ne_nil hne
    rw [List.length_append]
    omega
  · cases h

theorem length_lt_of_literal? {word : List Char} (hword : word ≠ [])
    (h : literal? word cs = some rest) : rest.length < cs.length := by
  unfold literal? at h
  split at h
  · next hcond =>
    obtain rfl := Option.some.inj h
    have hfront := (List.isPrefixOf_iff_prefix.mp (Bool.and_eq_true_iff.mp hcond).1).length_le
    have hpos := List.length_pos_of_ne_nil hword
    rw [List.length_drop]
    omega
  · cases h

theorem length_lt_of_word (h : word cs = .ok (t, rest)) : rest.length < cs.length := by
  unfold word at h
  dsimp only at h
  split at h
  · cases h
  · next hname =>
    obtain ⟨-, rfl⟩ := Prod.mk.inj (Except.ok.inj h)
    have hne : cs.takeWhile (!endsWord ·) ≠ [] := by
      intro hnil
      simp [hnil] at hname
    have hpos := List.length_pos_of_ne_nil hne
    have hsum := congrArg List.length (List.takeWhile_append_dropWhile (p := (!endsWord ·)) (l := cs))
    rw [List.length_append] at hsum
    omega

theorem length_lt_of_plain (h : plain cs = .ok (t, rest)) : rest.length < cs.length := by
  unfold plain at h
  split at h
  · exact length_lt_of_number h
  · split at h
    · next hlit =>
      obtain ⟨-, rfl⟩ := Prod.mk.inj (Except.ok.inj h)
      exact length_lt_of_literal? (by simp) hlit
    · split at h
      · next hlit =>
        obtain ⟨-, rfl⟩ := Prod.mk.inj (Except.ok.inj h)
        exact length_lt_of_literal? (by simp) hlit
      · split at h
        · next hlit =>
          obtain ⟨-, rfl⟩ := Prod.mk.inj (Except.ok.inj h)
          exact length_lt_of_literal? (by simp) hlit
        · exact length_lt_of_word h

theorem length_lt_of_token (h : token cs = .ok (t, rest)) : rest.length < cs.length := by
  unfold token at h
  split at h
  case h_7 =>
    obtain ⟨⟨s, rest'⟩, hstring, h⟩ := bind_eq_ok.mp h
    obtain ⟨-, rfl⟩ := Prod.mk.inj (Except.ok.inj h)
    exact lt_trans (length_lt_of_stringRest hstring) (by simp)
  case h_8 =>
    obtain ⟨⟨s, rest'⟩, hstring, h⟩ := bind_eq_ok.mp h
    obtain ⟨-, rfl⟩ := Prod.mk.inj (Except.ok.inj h)
    exact lt_trans (length_lt_of_stringRest hstring) (by simp)
  case h_9 => cases h
  case h_10 => exact length_lt_of_plain h
  all_goals
    obtain ⟨-, rfl⟩ := Prod.mk.inj (Except.ok.inj h)
    simp

/-- Every token takes a character. -/
theorem length_lt_of_next {behind : ℕ} (h : next cs = .ok (some (behind, t, rest))) :
    rest.length < cs.length := by
  obtain ⟨cs', hskip, h⟩ := bind_eq_ok.mp h
  have hle := length_le_of_skipFrom hskip
  split at h
  · cases h
  · obtain ⟨⟨t', rest'⟩, htoken, h⟩ := bind_eq_ok.mp h
    obtain ⟨-, htail⟩ := Prod.mk.inj (Option.some.inj (Except.ok.inj h))
    obtain ⟨-, rfl⟩ := Prod.mk.inj htail
    exact lt_of_lt_of_le (length_lt_of_token htoken) hle

end SageEditor.Jsonc.Scan

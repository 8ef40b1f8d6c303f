/-
Completions of a prefix that grows, and of one prefix with and without the case of letters.

* `filter_sublist_filter_iff` — one choice from a list is part of another if all it chooses is;
* `isPrefix_insensitive_append_iff`, `isPrefix_insensitive_iff` — what begins a name begins it in
  small letters as well, and what begins with more begins with less, unless a sigma continues;
* `complete_sublist_iff` — the completions of a longer prefix are among those of a shorter one, and
  those in which case counts among those in which it does not, as far as no sigma continues.

Design notes: both prefix and name are lowercased as texts of their own.  A prefix that ends in
a capital sigma gets the final form `ς` although the names it is to be completed to have `σ` in
that place, and this is the only way in which lowercasing fails to respect prefixes.
-/
import SageEditor.LanguageData
import SageEditor.Proofs.Text.Lowercase

namespace SageEditor

open Text

/-- What one condition chooses from a list is part of what another chooses. -/
theorem filter_sublist_filter_iff {α : Type} {l : List α} {p q : α → Bool} :
    (l.filter p).Sublist (l.filter q) ↔ ∀ x ∈ l, p x = true → q x = true := by
  constructor
  · intro h x hx hp
    exact (List.mem_filter.mp (h.subset (List.mem_filter.mpr ⟨hx, hp⟩))).2
  · intro h
    have hboth : l.filter p = (l.filter q).filter p := by
      rw [List.filter_filter]
      refine List.filter_congr fun x hx => ?_
      cases hp : p x with
      | false => rfl
      | true => rw [h x hx hp, Bool.and_self]
    rw [hboth]
    exact List.filter_sublist

namespace MatchCase

variable {start rest name : String}

theorem isPrefix_sensitive :
    MatchCase.sensitive.isPrefix start name = true ↔ start.toList <+: name.toList :=
  List.isPrefixOf_iff_prefix

theorem isPrefix_sensitive_iff :
    MatchCase.sensitive.isPrefix start name = true ↔ ∃ rest, name = start ++ rest := by
  rw [isPrefix_sensitive]
  constructor
  · rintro ⟨rest, h⟩
    refine ⟨String.ofList rest, ?_⟩
    rw [← String.toList_inj, String.toList_append, String.toList_ofList, h]
  · rintro ⟨rest, rfl⟩
    exact ⟨rest.toList, by rw [String.toList_append]⟩

theorem isPrefix_insensitive :
    MatchCase.insensitive.isPrefix start name = true ↔
      lowercaseAfter [] start.toList <+: lowercaseAfter [] name.toList := by
  rw [isPrefix, List.isPrefixOf_iff_prefix, fold, fold, lowercase, lowercase,
    String.toList_ofList, String.toList_ofList]

/-- What begins a name begins it in small letters as well, unless a sigma continues. -/
theorem isPrefix_insensitive_append_iff :
    MatchCase.insensitive.isPrefix start (start ++ rest) = true ↔
      ¬ SigmaContinues [] start.toList rest.toList := by
  rw [isPrefix_insensitive, String.toList_append, lowercaseAfter_prefix_append_iff]

/-- Where more begins a name in small letters, less does unless a sigma continues. -/
theorem isPrefix_insensitive_iff
    (h : MatchCase.insensitive.isPrefix (start ++ rest) name = true) :
    MatchCase.insensitive.isPrefix start name = true ↔
      ¬ SigmaContinues [] start.toList rest.toList := by
  rw [isPrefix_insensitive, String.toList_append] at h
  rw [isPrefix_insensitive, lowercaseAfter_prefix_iff h]

end MatchCase

namespace LanguageData

/-- **Completions that do not count case are more, and those of a longer prefix are fewer, as far
as no sigma continues.**  If case counts, a longer prefix has part of the completions of a shorter
one.  If it does not, this holds exactly where no sigma of the shorter prefix continues in the
longer one, or there is nothing to complete the longer one to.  All completions in which case
counts are among those in which it does not exactly if a sigma of the prefix continues in no name
that begins with the prefix. -/
theorem complete_sublist_iff (data : LanguageData) (p r : String) :
    ((data.complete p .sensitive).Sublist (data.complete p .insensitive) ↔
      ∀ c ∈ data.candidates, ∀ rest, c.name = p ++ rest →
        ¬ SigmaContinues [] p.toList rest.toList) ∧
    (data.complete (p ++ r) .sensitive).Sublist (data.complete p .sensitive) ∧
    ((data.complete (p ++ r) .insensitive).Sublist (data.complete p .insensitive) ↔
      ¬ SigmaContinues [] p.toList r.toList ∨ data.complete (p ++ r) .insensitive = []) := by
  refine ⟨?_, ?_, ?_⟩
  · rw [complete, complete, filter_sublist_filter_iff]
    constructor
    · intro h c hc rest hname
      have hsmall := h c hc (MatchCase.isPrefix_sensitive_iff.mpr ⟨rest, hname⟩)
      rwa [hname, MatchCase.isPrefix_insensitive_append_iff] at hsmall
    · intro h c hc hstart
      obtain ⟨rest, hname⟩ := MatchCase.isPrefix_sensitive_iff.mp hstart
      rw [hname, MatchCase.isPrefix_insensitive_append_iff]
      exact h c hc rest hname
  · rw [complete, complete, filter_sublist_filter_iff]
    intro c _ hlong
    obtain ⟨rest, hname⟩ := MatchCase.isPrefix_sensitive_iff.mp hlong
    refine MatchCase.isPrefix_sensitive_iff.mpr ⟨r ++ rest, ?_⟩
    rw [hname, String.append_assoc]
  · rw [complete, complete, filter_sublist_filter_iff, List.filter_eq_nil_iff]
    constructor
    · intro h
      by_cases hsigma : SigmaContinues [] p.toList r.toList
      · -- A candidate of the longer prefix would be one of the shorter, against the sigma.
        refine .inr fun c hc hlong => ?_
        exact (MatchCase.isPrefix_insensitive_iff hlong).mp (h c hc hlong) hsigma
      · exact .inl hsigma
    · rintro (hsigma | hnone) c hc hlong
      · exact (MatchCase.isPrefix_insensitive_iff hlong).mpr hsigma
      · exact absurd hlong (hnone c hc)

/-- Names with a capital sigma inside, at the end and before a full stop. -/
def sigmaData : LanguageData := ⟨⟨[⟨"ΑΣΑ", ""⟩], [⟨"ΑΣ", ""⟩], [⟨"ΑΣ.", ""⟩]⟩, []⟩

/-- A full stop is case-ignorable, so the sigma before it does not continue. -/
theorem complete_sublist_iff_stop :
    (sigmaData.complete ("ΑΣ" ++ ".") .insensitive).Sublist
        (sigmaData.complete "ΑΣ" .insensitive) ∧
      (sigmaData.complete ("ΑΣ" ++ ".") .insensitive).map Candidate.name = ["ΑΣ."] := by
  refine ⟨(complete_sublist_iff sigmaData "ΑΣ" ".").2.2.mpr (.inl ?_), by decide +kernel⟩
  rintro ⟨-, -, -, -, -, hrest⟩
  exact absurd hrest (by decide +kernel)

/-- The prefix begins a name in which its sigma continues, and is completed to that name only if
case counts, while the whole name is completed to itself. -/
theorem not_complete_sublist_sigma :
    ¬ (sigmaData.complete "ΑΣ" .sensitive).Sublist (sigmaData.complete "ΑΣ" .insensitive) ∧
      ¬ (sigmaData.complete ("ΑΣ" ++ "Α") .insensitive).Sublist
        (sigmaData.complete "ΑΣ" .insensitive) := by
  decide +kernel

end LanguageData

end SageEditor

/-
How words without expansions are read.

* `Reader.parts_ends`, `Reader.parts_char` and the like — what one step of the reader does at each
  kind of character;
* `Reader.literal_of_parts` — a word that is read without expansions stands where it is read;
* `Literal.exists_parts` — a word that stands there is read, by every reader with a bound that is
  large enough.

Design notes: both directions go through the steps of the reader, once by induction on its bound and
once along the word.  A dollar sign or an accent that begins an expansion leaves a part without a
text of its own, so that it needs no step.
-/
import SageEditor.Proofs.Shell.Literal
import SageEditor.Proofs.Shell.Reader

namespace SageEditor.Shell

namespace Reader

section

variable {at_ : Surroundings} {n : Nat} {s : Source} {c : Char} {src : List Char}

-- The bound of a step is a successor, so that this unfolds one step only.
attribute [local simp] parts

theorem parts_ends (h : at_.endBefore s.rest = true) : parts at_ (n + 1) s = .ok ([], s) := by
  simp [h]

theorem parts_finished (h : s.rest = []) : parts .bare (n + 1) s = .ok ([], s) := by
  simp [h, Surroundings.endBefore, Surroundings.fault?]

theorem parts_unterminated {w : ShellWord} {s' : Source} (h : s.rest = []) :
    parts .doubleQuotes (n + 1) s ≠ .ok (w, s') := by
  simp [h, Surroundings.endBefore, Surroundings.fault?]

theorem parts_continued (hat : at_ = .bare ∨ at_ = .doubleQuotes)
    (h : s.rest = '\\' :: '\n' :: src) :
    parts at_ (n + 1) s = parts at_ n { s with rest := '\n' :: src }.next := by
  rcases hat with rfl | rfl <;> simp [h, Surroundings.endBefore]

theorem parts_escaped (hat : at_ = .bare ∨ at_ = .doubleQuotes) (hc : c ≠ '\n')
    (h : s.rest = '\\' :: c :: src) :
    parts at_ (n + 1) s = (do
      return .text (if at_.escapes c then [c] else ['\\', c]) true :: (← parts at_ n) :
        Reader ShellWord) { s with rest := c :: src }.next := by
  rcases hat with rfl | rfl <;> simp [h, Surroundings.endBefore]

theorem parts_dollar (hat : at_ = .bare ∨ at_ = .doubleQuotes) (h : s.rest = '$' :: src) :
    parts at_ (n + 1) s = (do
      return (← dollar at_.quotes n) :: (← parts at_ n) : Reader ShellWord)
        { s with rest := src } := by
  rcases hat with rfl | rfl <;> simp [h, Surroundings.endBefore]

theorem parts_quotes (h : s.rest = '"' :: src) :
    parts .bare (n + 1) s = (do
      let inner ← parts .doubleQuotes n
      skip 1
      return (if inner.isEmpty then [.text [] true] else inner) ++ (← parts .bare n) :
        Reader ShellWord) { s with rest := src } := by
  simp [h, Surroundings.endBefore]

theorem parts_accent (hat : at_ = .bare ∨ at_ = .doubleQuotes) {w : ShellWord} {s' : Source}
    (h : s.rest = '\x60' :: src) (hw : parts at_ (n + 1) s = .ok (w, s')) :
    ∃ p ∈ w, p.literal? = none := by
  rw [parts.eq_def] at hw
  dsimp only at hw
  rw [ahead_bind, h] at hw
  have hend : at_.endBefore ('\x60' :: src) = false := by rcases hat with rfl | rfl <;> rfl
  simp only [hend, Bool.false_eq_true, if_false] at hw
  cases haccent : accented at_.quotes [] src with
  | none =>
    rw [haccent] at hw
    obtain ⟨_, _, -, hw⟩ := bind_eq_ok.mp hw
    exact absurd hw fault_ne_ok
  | some p =>
    rw [haccent] at hw
    obtain ⟨_, _, -, hw⟩ := bind_eq_ok.mp hw
    obtain ⟨_, _, -, hw⟩ := bind_eq_ok.mp hw
    obtain ⟨_, _, -, hw⟩ := bind_eq_ok.mp hw
    obtain ⟨rfl, -⟩ := pure_eq_ok.mp hw
    exact ⟨_, List.mem_cons_self, rfl⟩

theorem parts_apostrophe {cs : List Char} (hcs : '\'' ∉ cs)
    (h : s.rest = '\'' :: (cs ++ '\'' :: src)) :
    ∃ s', s'.rest = src ∧ s.Alike s' ∧ ∀ n, parts .bare (n + 1) s = (do
      return .text cs true :: (← parts .bare n) : Reader ShellWord) s' := by
  have hall : ∀ c ∈ cs, (c != '\'') = true := fun c hc => bne_iff_ne.mpr fun h => hcs (h ▸ hc)
  have htaken : (cs ++ '\'' :: src).takeWhile (· != '\'') = cs := by
    rw [List.takeWhile_append_of_pos hall]
    simp
  have hleft : (cs ++ '\'' :: src).dropWhile (· != '\'') = '\'' :: src := by
    rw [List.dropWhile_append_of_pos hall]
    simp
  obtain ⟨t, ht, hrest, halike⟩ :=
    takeWhile_apply (s := { s with rest := cs ++ '\'' :: src }) (· != '\'')
  refine ⟨{ t with rest := src }, rfl, ⟨halike.pushed, halike.aliases⟩, fun n => ?_⟩
  rw [parts.eq_def]
  dsimp only
  rw [ahead_bind, h]
  simp [Surroundings.endBefore, Surroundings.quotes, h]
  rw [bind_of_eq_ok ht]
  simp [hrest, htaken, hleft]

theorem parts_apostrophe_open {w : ShellWord} {s' : Source} (hsrc : '\'' ∉ src)
    (h : s.rest = '\'' :: src) : parts .bare (n + 1) s ≠ .ok (w, s') := by
  intro hw
  simp [Surroundings.endBefore, Surroundings.quotes, h, hsrc] at hw
  obtain ⟨_, _, -, hw⟩ := bind_eq_ok.mp hw
  exact absurd hw fault_ne_ok

theorem dollar_closed {quoted : Bool} (h : opensExpansion s.rest = false) :
    dollar quoted (n + 1) s = .ok (.text ['$'] quoted, s) := by
  rw [dollar, ahead_bind]
  cases hrest : s.rest with
  | nil => rfl
  | cons c rest =>
    have hc : c ≠ '(' ∧ c ≠ '\x7b' ∧ isNameStart c = false ∧ isSpecial c = false := by
      simpa [opensExpansion, hrest, and_assoc] using h
    obtain ⟨hround, hbrace, hname, hspecial⟩ := hc
    simp [hround, hname, hspecial]

theorem dollar_open {quoted : Bool} {p : Part} {s' : Source} (h : opensExpansion s.rest = true)
    (hp : dollar quoted n s = .ok (p, s')) : p.literal? = none := by
  cases n with
  | zero => exact absurd hp fault_ne_ok
  | succ n =>
    rw [dollar, ahead_bind] at hp
    cases hrest : s.rest with
    | nil => simp [hrest, opensExpansion] at h
    | cons c rest =>
      rw [hrest] at hp
      -- Between parentheses stands a calculation or a command, between braces a parameter.
      by_cases hround : c = '('
      · subst hround
        by_cases hmore : rest.head? = some '('
        · obtain ⟨rest, rfl⟩ := List.head?_eq_some_iff.mp hmore
          obtain ⟨_, _, -, hp⟩ := bind_eq_ok.mp hp
          obtain ⟨_, _, -, hp⟩ := bind_eq_ok.mp hp
          obtain ⟨_, _, -, hp⟩ := bind_eq_ok.mp hp
          obtain ⟨rfl, -⟩ := pure_eq_ok.mp hp
          rfl
        · have hmore : ∀ more, rest ≠ '(' :: more := by rintro more rfl; exact hmore rfl
          simp only at hp
          obtain ⟨_, _, -, hp⟩ := bind_eq_ok.mp hp
          obtain ⟨_, _, -, hp⟩ := bind_eq_ok.mp hp
          obtain ⟨t, _, -, hp⟩ := bind_eq_ok.mp hp
          cases t with
          | closing =>
            obtain ⟨rfl, -⟩ := pure_eq_ok.mp hp
            rfl
          | _ => exact absurd hp unexpectedFor_ne_ok
      by_cases hbrace : c = '\x7b'
      · subst hbrace
        obtain ⟨_, _, -, hp⟩ := bind_eq_ok.mp hp
        obtain ⟨_, _, -, hp⟩ := bind_eq_ok.mp hp
        obtain ⟨_, _, -, hp⟩ := bind_eq_ok.mp hp
        obtain ⟨rfl, -⟩ := pure_eq_ok.mp hp
        rfl
      -- Otherwise the parameter is a name or one character.
      have hopen : isNameStart c = true ∨ isSpecial c = true := by
        simpa [opensExpansion, hrest, hround, hbrace] using h
      simp [-bind_pure_comp, hround] at hp
      split at hp
      · obtain ⟨_, _, -, hp⟩ := bind_eq_ok.mp hp
        obtain ⟨rfl, -⟩ := pure_eq_ok.mp hp
        rfl
      · rw [if_pos (hopen.resolve_left ‹_›)] at hp
        obtain ⟨_, _, -, hp⟩ := bind_eq_ok.mp hp
        obtain ⟨rfl, -⟩ := pure_eq_ok.mp hp
        rfl

theorem parts_char (hat : at_ = .bare ∨ at_ = .doubleQuotes) (hc : at_.isPlain c src = true)
    (h : s.rest = c :: src) :
    parts at_ (n + 1) s = (do
      return .text [c] at_.quotes :: (← parts at_ n) : Reader ShellWord) s.next := by
  rw [parts.eq_def]
  dsimp only
  rw [ahead_bind, h]
  have hafter : at_.after c = at_ := by rcases hat with rfl | rfl <;> rfl
  have hends : at_.endBefore (c :: src) = false := by simp_all [Surroundings.isPlain]
  rw [hends]
  by_cases hslash : c = '\\'
  · have hsrc : src = [] := by simp_all [Surroundings.isPlain]
    subst hslash hsrc
    simp [hafter]
  by_cases hquote : c = '\''
  · have hquotes : at_.quotes = true := by simp_all [Surroundings.isPlain]
    subst hquote
    simp [hquotes, h, Source.next]
  · have hspecial : c ≠ '$' ∧ c ≠ '\x60' ∧ c ≠ '"' := by
      refine ⟨?_, ?_, ?_⟩ <;> rintro rfl <;> simp_all [Surroundings.isPlain]
    simp [hafter, hslash, hspecial]

end

theorem isPlain_or {at_ : Surroundings} {c : Char} {src : List Char}
    (hat : at_ = .bare ∨ at_ = .doubleQuotes) (hends : at_.endBefore (c :: src) = false) :
    at_.isPlain c src = true ∨ c = '$' ∨ c = '\x60' ∨ at_ = .bare ∧ (c = '"' ∨ c = '\'') ∨
      c = '\\' ∧ ∃ d more, src = d :: more := by
  by_cases hslash : c = '\\'
  · cases src with
    | nil =>
      rcases hat with rfl | rfl <;>
        simp [Surroundings.isPlain, Surroundings.endBefore, hslash]
    | cons d more => simp [hslash]
  rcases hat with rfl | rfl
  · by_cases hquote : c = '\''
    · simp [hquote]
    by_cases hspecial : c = '$' ∨ c = '\x60' ∨ c = '"'
    · rcases hspecial with rfl | rfl | rfl <;> simp
    · obtain ⟨hdollar, haccent, hdouble⟩ := by simpa only [not_or] using hspecial
      simp [Surroundings.isPlain, hends, hslash, hquote, hdollar, haccent, hdouble]
  · by_cases hspecial : c = '$' ∨ c = '\x60' ∨ c = '"'
    · rcases hspecial with rfl | rfl | rfl <;> simp_all [Surroundings.endBefore]
    · obtain ⟨hdollar, haccent, hdouble⟩ := by simpa only [not_or] using hspecial
      simp [Surroundings.isPlain, hends, hslash, hdollar, haccent, hdouble, Surroundings.quotes]
      split <;> simp_all

theorem literal_of_parts (n : Nat) : ∀ {at_ : Surroundings} {s s' : Source} {w : ShellWord},
    at_ = .bare ∨ at_ = .doubleQuotes → parts at_ n s = .ok (w, s') →
    (∀ p ∈ w, p.literal? ≠ none) → Literal at_ s.rest w s'.rest ∧ s.Alike s' := by
  induction n with
  | zero => intro at_ s s' w _ h; simp [parts] at h
  | succ n ih =>
    intro at_ s s' w hat h hw
    by_cases hends : at_.endBefore s.rest = true
    · rw [parts_ends hends, Except.ok.injEq, Prod.mk.injEq] at h
      obtain ⟨rfl, rfl⟩ := h
      exact ⟨.ends hends, .refl s⟩
    cases hrest : s.rest with
    | nil =>
      rcases hat with rfl | rfl
      · rw [parts_finished hrest, Except.ok.injEq, Prod.mk.injEq] at h
        obtain ⟨rfl, rfl⟩ := h
        exact ⟨hrest ▸ .finished, .refl s⟩
      · exact absurd h (parts_unterminated hrest)
    | cons c src =>
      rw [Bool.not_eq_true, hrest] at hends
      obtain hplain | rfl | rfl | ⟨rfl, rfl | rfl⟩ | ⟨rfl, d, more, rfl⟩ := isPlain_or hat hends
      · -- A character that stands for itself.
        rw [parts_char hat hplain hrest, cons_eq_ok] at h
        obtain ⟨w, rfl, h⟩ := h
        obtain ⟨hlit, halike⟩ := ih hat h fun p hp => hw p (List.mem_cons_of_mem _ hp)
        rw [Source.rest_next, hrest] at hlit
        exact ⟨.char hplain hlit, (Source.alike_next s).trans halike⟩
      · -- A dollar sign, which is a part of its own only if it begins no expansion.
        rw [parts_dollar hat hrest] at h
        obtain ⟨p, t, hp, hcons⟩ := bind_eq_ok.mp h
        obtain ⟨w, rfl, hparts⟩ := cons_eq_ok.mp hcons
        cases hopen : opensExpansion src with
        | true => exact absurd (dollar_open hopen hp) (hw p List.mem_cons_self)
        | false =>
          cases n with
          | zero => exact absurd hp fault_ne_ok
          | succ n =>
            rw [dollar_closed hopen, Except.ok.injEq, Prod.mk.injEq] at hp
            obtain ⟨rfl, rfl⟩ := hp
            obtain ⟨hlit, halike⟩ := ih hat hparts fun p hp => hw p (List.mem_cons_of_mem _ hp)
            exact ⟨.dollar hopen hlit, halike.pushed, halike.aliases⟩
      · -- An accent begins a command.
        obtain ⟨p, hp, hnone⟩ := parts_accent hat hrest h
        exact absurd hnone (hw p hp)
      · -- Double quotes, in which the reader starts anew.
        rw [parts_quotes hrest] at h
        obtain ⟨inner, t, hinner, hskip⟩ := bind_eq_ok.mp h
        rw [skip_bind] at hskip
        obtain ⟨w', s'', hparts, hpure⟩ := bind_eq_ok.mp hskip
        obtain ⟨rfl, rfl⟩ := pure_eq_ok.mp hpure
        obtain ⟨hlit, halike⟩ := ih (.inl rfl) hparts fun p hp => hw p (List.mem_append_right _ hp)
        have hin : ∀ p ∈ inner, p.literal? ≠ none := by
          intro p hp
          refine hw p (List.mem_append_left _ ?_)
          rwa [if_neg (by simpa using List.ne_nil_of_mem hp)]
        obtain ⟨hquoted, hbefore⟩ := ih (.inr rfl) hinner hin
        -- They end at a quote, behind which the word goes on.
        obtain ⟨more, hmore⟩ := hquoted.rest_of_doubleQuotes
        rw [hmore] at hquoted hlit
        have hafter := hbefore.trans ⟨halike.pushed, halike.aliases⟩
        exact ⟨.quotes hquoted hlit, hafter.pushed, hafter.aliases⟩
      · -- Apostrophes, which have to come in pairs.
        by_cases hsrc : '\'' ∈ src
        · obtain ⟨cs, more, rfl, hcs⟩ := List.eq_append_cons_of_mem hsrc
          obtain ⟨t, ht, hbefore, hparts⟩ := parts_apostrophe hcs hrest
          rw [hparts, cons_eq_ok] at h
          obtain ⟨w, rfl, h⟩ := h
          obtain ⟨hlit, halike⟩ := ih hat h fun p hp => hw p (List.mem_cons_of_mem _ hp)
          exact ⟨.apostrophes hcs (ht ▸ hlit), hbefore.trans halike⟩
        · exact absurd h (parts_apostrophe_open hsrc hrest)
      · -- A backslash joins lines or takes the character behind it as it is.
        by_cases hd : d = '\n'
        · subst hd
          rw [parts_continued hat hrest] at h
          obtain ⟨hlit, halike⟩ := ih hat h hw
          rw [Source.rest_next] at hlit
          have hbefore := (Source.alike_next _).trans halike
          exact ⟨.continued hlit, hbefore.pushed, hbefore.aliases⟩
        · rw [parts_escaped hat hd hrest, cons_eq_ok] at h
          obtain ⟨w, rfl, h⟩ := h
          obtain ⟨hlit, halike⟩ := ih hat h fun p hp => hw p (List.mem_cons_of_mem _ hp)
          rw [Source.rest_next] at hlit
          have hbefore := (Source.alike_next _).trans halike
          exact ⟨.escaped hd hlit, hbefore.pushed, hbefore.aliases⟩

end Reader

namespace Literal

open Reader

/-- A word without expansions is read as such, if the bound is not too small. -/
theorem exists_parts {at_ : Surroundings} {src rest : List Char} {w : ShellWord}
    (h : Literal at_ src w rest) : ∀ {s : Source}, at_ = .bare ∨ at_ = .doubleQuotes →
      s.rest = src → ∃ s', s'.rest = rest ∧ s.Alike s' ∧
        ∀ n, src.length < n → parts at_ n s = .ok (w, s') := by
  induction h with
  | ends hend =>
    intro s _ hrest
    refine ⟨s, hrest, .refl s, eq_of_lt_bound fun n _ => ?_⟩
    exact parts_ends (hrest ▸ hend)
  | finished =>
    intro s _ hrest
    refine ⟨s, hrest, .refl s, eq_of_lt_bound fun n _ => ?_⟩
    exact parts_finished hrest
  | @continued _ src _ _ _ ih =>
    intro s hat hrest
    obtain ⟨s', hs', halike, hparts⟩ := ih hat (Source.rest_next { s with rest := '\n' :: src })
    have hbefore := (Source.alike_next _).trans halike
    refine ⟨s', hs', ⟨hbefore.pushed, hbefore.aliases⟩, eq_of_lt_bound fun n hn => ?_⟩
    rw [parts_continued hat hrest]
    exact hparts n (Nat.lt_of_succ_lt hn)
  | @escaped _ src _ _ c hc _ ih =>
    intro s hat hrest
    obtain ⟨s', hs', halike, hparts⟩ := ih hat (Source.rest_next { s with rest := c :: src })
    have hbefore := (Source.alike_next _).trans halike
    refine ⟨s', hs', ⟨hbefore.pushed, hbefore.aliases⟩, eq_of_lt_bound fun n hn => ?_⟩
    rw [parts_escaped hat hc hrest, cons_eq_ok]
    exact ⟨_, rfl, hparts n (Nat.lt_of_succ_lt hn)⟩
  | @dollar _ src _ _ hopen _ ih =>
    intro s hat hrest
    obtain ⟨s', hs', halike, hparts⟩ := ih (s := { s with rest := src }) hat rfl
    refine ⟨s', hs', ⟨halike.pushed, halike.aliases⟩, eq_of_lt_bound fun n hn => ?_⟩
    -- The sign is read with the bound that is left.
    obtain ⟨n, rfl⟩ := Nat.exists_eq_succ_of_ne_zero (Nat.ne_zero_of_lt hn)
    rw [parts_dollar hat hrest, bind_of_eq_ok (dollar_closed hopen), cons_eq_ok]
    exact ⟨_, rfl, hparts _ hn⟩
  | @quotes src more _ _ _ hinner _ ihinner ih =>
    intro s hat hrest
    obtain ⟨t, ht, hbefore, hread⟩ := ihinner (s := { s with rest := src }) (.inr rfl) rfl
    obtain ⟨s', hs', halike, hparts⟩ := ih (s := { t with rest := more }) hat rfl
    have hafter := hbefore.trans ⟨halike.pushed, halike.aliases⟩
    refine ⟨s', hs', ⟨hafter.pushed, hafter.aliases⟩, eq_of_lt_bound fun n hn => ?_⟩
    -- What is behind the quotes is shorter than what is between and behind them.
    have hlength := hinner.length_add_le
    rw [List.length_cons] at hlength hn
    rw [parts_quotes hrest, bind_of_eq_ok (hread n (by omega)), skip_bind, ht, List.drop_one,
      List.tail_cons, bind_of_eq_ok (hparts n (by omega)), pure_apply]
  | @apostrophes cs src _ _ hcs _ ih =>
    intro s hat hrest
    obtain ⟨t, ht, hbefore, hread⟩ := parts_apostrophe hcs hrest
    obtain ⟨s', hs', halike, hparts⟩ := ih hat ht
    refine ⟨s', hs', hbefore.trans halike, eq_of_lt_bound fun n hn => ?_⟩
    rw [hread, cons_eq_ok]
    exact ⟨_, rfl, hparts n (by simp at hn; omega)⟩
  | char hc _ ih =>
    intro s hat hrest
    obtain ⟨s', hs', halike, hparts⟩ := ih hat (hrest ▸ Source.rest_next s)
    refine ⟨s', hs', (Source.alike_next s).trans halike, eq_of_lt_bound fun n hn => ?_⟩
    rw [parts_char hat hc hrest, cons_eq_ok]
    exact ⟨_, rfl, hparts n hn⟩

end Literal

end SageEditor.Shell

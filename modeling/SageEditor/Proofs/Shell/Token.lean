/-
How tokens are read.

* `Lexes` — a source begins with a token: blanks, then a word without expansions, or a mark;
* `Reader.lexes_of_takeToken` — so does every source of which such a token is taken;
* `Reader.exists_takeToken` — a word without expansions is taken where it begins.

Design notes: of a mark it is enough to know that it is read from the front of the text, and of
the sign between two commands what it looks like.
-/
import Mathlib.Data.List.Basic
import SageEditor.Proofs.Shell.Constant
import SageEditor.Proofs.Shell.Word

namespace SageEditor.Shell

/-- Whether a text begins with a word. -/
def startsWord : List Char → Bool
  | [] => false
  | c :: rest =>
    !Surroundings.bare.endBefore (c :: rest) && c != '#' &&
      !(c == '\\' && rest.head? == some '\n') &&
      !(c.isDigit && (rest.head? == some '<' || rest.head? == some '>'))

/-- Nothing in a token is expanded. -/
def Token.IsLiteral (t : Token) : Prop :=
  ∀ w, t = .word w → ∀ p ∈ w, p.literal? ≠ none

/-- What a token is read from. -/
inductive Lexes (s : Source) : Token → Source → Prop where
  | word {s' : Source} (pre : List Char) {src : List Char} {w : ShellWord}
      (hrest : s.rest = pre ++ src) (hpre : ∀ c ∈ pre, c ∈ [' ', '\t', '\\', '\n'])
      (hstarts : startsWord src = true) (hlit : Literal .bare src w s'.rest)
      (halike : s.Alike s') : Lexes s (.word w.joined) s'
  | mark {t : Token} {s' : Source} (pre : List Char) {front : List Char}
      (hrest : s.rest = pre ++ front ++ s'.rest) (ht : ∀ w, t ≠ .word w)
      (hfront : t = .andIf → front = ['&', '&']) (halike : s.Alike s') : Lexes s t s'

namespace Lexes

/-- Blanks and continued lines may stand before a token. -/
theorem passOver {s u s' : Source} {t : Token} (passed : List Char) (h : Lexes u t s')
    (hrest : s.rest = passed ++ u.rest) (hpassed : ∀ c ∈ passed, c ∈ [' ', '\t', '\\', '\n'])
    (halike : s.Alike u) : Lexes s t s' := by
  cases h with
  | @word _ pre src w hu hpre hstarts hlit halike' =>
    refine .word (passed ++ pre) (by rw [hrest, hu, List.append_assoc]) (fun c hc => ?_)
      hstarts hlit (halike.trans halike')
    exact (List.mem_append.mp hc).elim (hpassed c) (hpre c)
  | @mark _ _ pre front hu ht hfront halike' =>
    exact .mark (passed ++ pre) (by rw [hrest, hu]; simp) ht hfront (halike.trans halike')

theorem alike {s s' : Source} {t : Token} (h : Lexes s t s') : s.Alike s' := by
  cases h <;> assumption

end Lexes

/-- A source gives a token: one that has been put back, or the next one of its text. -/
inductive Gives (s : Source) : Token → Source → Prop where
  | pushed {t : Token} (h : s.pushed = some t) : Gives s t { s with pushed := none }
  | read {t : Token} {s' : Source} (hs : s.pushed = none) (h : Lexes s t s') : Gives s t s'

namespace Gives

variable {s s' : Source} {t : Token}

theorem pushed_eq (h : Gives s t s') : s'.pushed = none := by
  cases h with
  | pushed => rfl
  | read hs h => exact h.alike.pushed.trans hs

theorem aliases_eq (h : Gives s t s') : s'.aliases = s.aliases := by
  cases h with
  | pushed => rfl
  | read _ h => exact h.alike.aliases

end Gives

namespace Reader

variable {n : Nat} {s s' : Source} {src : List Char} {t : Token}

theorem takeToken_pushed (h : s.pushed = some t) :
    takeToken (n + 1) s = .ok (t, { s with pushed := none }) := by
  rw [takeToken, get_bind, h]
  rfl

theorem takeToken_finish (hs : s.pushed = none) (h : s.rest = []) :
    takeToken (n + 1) s = .ok (.finish, s) := by
  rw [takeToken, get_bind, hs, h]
  rfl

theorem takeToken_blank (hs : s.pushed = none) (h : s.rest = ' ' :: src ∨ s.rest = '\t' :: src) :
    takeToken (n + 1) s = takeToken n { s with rest := src } := by
  rw [takeToken, get_bind, hs]
  obtain h | h := h <;> simp [h, hs]

theorem takeToken_continued (hs : s.pushed = none) (h : s.rest = '\\' :: '\n' :: src) :
    takeToken (n + 1) s = takeToken n { s with rest := '\n' :: src }.next := by
  rw [takeToken, get_bind, hs]
  simp [h, hs]

theorem takeToken_andIf (hs : s.pushed = none) (h : s.rest = '&' :: '&' :: src) :
    takeToken (n + 1) s = .ok (.andIf, { s with rest := src }) := by
  rw [takeToken, get_bind, hs, h]
  simp [-bind_pure_comp, h, hs]

theorem of_eq {α : Type} {x : Reader α} {p : Except Fault (α × Source) → Prop}
    (h : ∀ r, x = r → p (r s)) : p (x s) := h x rfl

/-- A token without parts has been read from a source, which has been passed over. -/
def IsMark (s : Source) (e : Except Fault (Token × Source)) : Prop :=
  ∃ t s', e = .ok (t, s') ∧ (∀ w, t ≠ .word w) ∧ s.Alike s' ∧
    ∃ front, s.rest = front ++ s'.rest ∧ (t = .andIf → front = ['&', '&'])

theorem isMark_of_drop {t : Token} {k : Nat} (hword : ∀ w, t ≠ .word w)
    (h : t = .andIf → s.rest.take k = ['&', '&']) :
    IsMark s (.ok (t, { s with rest := s.rest.drop k })) :=
  ⟨t, _, rfl, hword, ⟨rfl, rfl⟩, s.rest.take k, (List.take_append_drop k s.rest).symm, h⟩

/-- What is no word and is not passed over is a token without parts. -/
theorem takeToken_mark (n : Nat) (hs : s.pushed = none) (hword : startsWord s.rest = false)
    (hblank : ∀ src, s.rest ≠ ' ' :: src ∧ s.rest ≠ '\t' :: src)
    (hcontinued : ∀ src, s.rest ≠ '\\' :: '\n' :: src) (hcomment : ∀ src, s.rest ≠ '#' :: src) :
    IsMark s (takeToken (n + 1) s) := by
  rw [takeToken, get_bind, hs]
  refine of_eq (p := IsMark s) fun r hr => ?_
  dsimp only at hr
  split at hr
  case h_1 h =>
    subst hr
    exact ⟨.finish, s, rfl, by simp, .refl s, [], rfl, by simp⟩
  case h_2 h | h_3 h => simp [h] at hblank
  case h_4 h => exact absurd h (hcontinued _)
  case h_5 h => exact absurd h (hcomment _)
  case h_6 tail h =>
    subst hr
    refine ⟨.newline, s.next, by simp, by simp, s.alike_next, ['\n'], ?_, by simp⟩
    rw [Source.rest_next, h]
    rfl
  case h_15 c rest hspace htab hslash hhash hline _ hsemi _ hamp _ hbar hopen hclose h =>
    -- What is left begins a redirection, with or without the number of a descriptor.
    have hredirects : (c = '<' ∨ c = '>') ∨ c.isDigit = true ∧
        (rest.head? = some '<' ∨ rest.head? = some '>') := by
      by_contra hnone
      obtain ⟨⟨hin, hout⟩, hdigit⟩ := by simpa only [not_or] using hnone
      have hcontinued : ¬(c = '\\' ∧ rest.head? = some '\n') := by
        rintro ⟨rfl, hhead⟩
        obtain ⟨tail, rfl⟩ := List.head?_eq_some_iff.mp hhead
        exact hslash tail rfl rfl
      rw [h, startsWord] at hword
      simp_all [Surroundings.endBefore]
    clear hword hblank hcontinued hcomment hslash
    obtain hc | ⟨hdigit, hhead⟩ := hredirects
    · -- The sign comes first, and what is no sign has no case of its own.
      have hdigit : c.isDigit = false := by rcases hc with rfl | rfl <;> rfl
      cases rest
      all_goals
        simp only [hdigit, Bool.false_and, Bool.false_eq_true, if_false] at hr
        split at hr
        case h_10 hgreater _ _ _ _ hless =>
          exact (hc.elim (fun hc => hless _ (by rw [hc])) fun hc => hgreater _ (by rw [hc])).elim
        all_goals
          subst hr
          exact isMark_of_drop (by simp) (by simp)
    · -- The sign stands behind the digit.
      obtain ⟨d, more, rfl, hd⟩ : ∃ d more, rest = d :: more ∧ (d = '<' ∨ d = '>') := by
        cases rest with
        | nil => simp at hhead
        | cons d more => exact ⟨d, more, rfl, by simpa using hhead⟩
      dsimp only at hr
      rw [if_pos (by simp [hdigit, hd])] at hr
      dsimp only at hr
      split at hr
      case h_10 hgreater _ _ _ _ hless =>
        exact (hd.elim (fun hd => hless _ (by rw [hd])) fun hd => hgreater _ (by rw [hd])).elim
      all_goals
        subst hr
        exact isMark_of_drop (by simp) (by simp)
  all_goals
    subst hr
    exact isMark_of_drop (by simp) (by simp [*])

theorem takeToken_word (hs : s.pushed = none) (h : startsWord s.rest = true) :
    takeToken (n + 1) s =
      (do return .word (ShellWord.joined (← parts .bare n)) : Reader Token) s := by
  rw [takeToken, get_bind, hs]
  refine congrFun (?_ : _ = (do return .word (ShellWord.joined (← parts .bare n)) : Reader Token)) s
  dsimp only
  split
  case h_15 c rest _ _ _ _ _ _ _ _ _ _ _ _ _ hrest =>
    rw [hrest, startsWord] at h
    obtain ⟨⟨⟨hends, -⟩, -⟩, hdigit⟩ := by simpa only [Bool.and_eq_true] using h
    have hin : c ≠ '<' ∧ c ≠ '>' := by simp_all [Surroundings.endBefore]
    cases rest with
    | nil => simp [hin]
    | cons d rest =>
      have hdigit : ¬(c.isDigit = true ∧ (d = '<' ∨ d = '>')) := by
        simpa [or_iff_not_imp_left] using hdigit
      simp [hin, hdigit]
  all_goals
    simp_all [startsWord, Surroundings.endBefore]

theorem takeToken_mark_of_head (n : Nat) (hs : s.pushed = none)
    (hhead : ∀ c, s.rest.head? = some c → c = '\n') : IsMark s (takeToken (n + 1) s) := by
  obtain hrest | ⟨src, hrest⟩ : s.rest = [] ∨ ∃ src, s.rest = '\n' :: src := by
    cases hrest : s.rest with
    | nil => exact .inl rfl
    | cons c src => exact .inr ⟨src, by rw [hhead c (by rw [hrest]; rfl)]⟩
  · exact takeToken_mark n hs (by rw [hrest]; rfl) (by simp [hrest]) (by simp [hrest])
      (by simp [hrest])
  · exact takeToken_mark n hs (by rw [hrest]; rfl) (by simp [hrest]) (by simp [hrest])
      (by simp [hrest])

theorem takeToken_comment (hs : s.pushed = none) (h : s.rest = '#' :: src) :
    ∃ t, takeToken (n + 1) s = takeToken n t ∧ s.Alike t ∧ (∃ front, s.rest = front ++ t.rest) ∧
      ∀ c, t.rest.head? = some c → c = '\n' := by
  obtain ⟨t, ht, hrest, halike⟩ := takeWhile_apply (s := s) (· != '\n')
  have hsplit := List.takeWhile_append_dropWhile (p := (· != '\n')) (l := s.rest)
  refine ⟨t, ?_, halike, ⟨_, hrest ▸ hsplit.symm⟩, fun c hc => ?_⟩
  · rw [takeToken, get_bind, hs]
    simp only [h]
    exact bind_of_eq_ok ht
  · have hnot := List.head?_dropWhile_not (· != '\n') s.rest
    rw [← hrest, hc] at hnot
    simpa using hnot

theorem IsMark.lexes {s s' : Source} {t : Token} {e : Except Fault (Token × Source)}
    (h : IsMark s e) (he : e = .ok (t, s')) : Lexes s t s' := by
  obtain ⟨t', s'', he', ht, halike, front, hrest, hfront⟩ := h
  obtain ⟨rfl, rfl⟩ := Prod.mk.inj (Except.ok.inj (he.symm.trans he'))
  exact .mark [] hrest ht hfront halike

theorem literal_of_joined {w : ShellWord} (h : ∀ p ∈ w.joined, p.literal? ≠ none) :
    ∀ p ∈ w, p.literal? ≠ none := by
  have hjoined := ShellWord.all_joined (f := fun p => p.literal?.isSome) (fun _ _ _ => rfl) w
  simp only [ne_eq, ← Option.isSome_iff_ne_none, ← List.all_eq_true] at h ⊢
  rwa [← hjoined]

theorem lexes_of_takeToken : ∀ {n : Nat} {s s' : Source} {t : Token}, s.pushed = none →
    takeToken n s = .ok (t, s') → t.IsLiteral → Lexes s t s'
  | 0, _, _, _, _, h, _ => absurd h fault_ne_ok
  | n + 1, s, s', t, hs, h, ht => by
    by_cases hstarts : startsWord s.rest = true
    · rw [takeToken_word hs hstarts] at h
      obtain ⟨w, s'', hparts, hpure⟩ := bind_eq_ok.mp h
      obtain ⟨rfl, rfl⟩ := pure_eq_ok.mp hpure
      -- Joining keeps the parts without a text of their own, so that there is none before it.
      obtain ⟨hlit, halike⟩ :=
        literal_of_parts n (.inl rfl) hparts (literal_of_joined (ht w.joined rfl))
      exact .word [] rfl (by simp) hstarts hlit halike
    rw [Bool.not_eq_true] at hstarts
    by_cases hblank : ∃ src, s.rest = ' ' :: src ∨ s.rest = '\t' :: src
    · obtain ⟨src, hblank⟩ := hblank
      rw [takeToken_blank hs hblank] at h
      have hrest := lexes_of_takeToken (s := { s with rest := src }) hs h ht
      obtain hblank | hblank := hblank
      · exact hrest.passOver [' '] hblank (by simp) ⟨rfl, rfl⟩
      · exact hrest.passOver ['\t'] hblank (by simp) ⟨rfl, rfl⟩
    by_cases hcontinued : ∃ src, s.rest = '\\' :: '\n' :: src
    · obtain ⟨src, hcontinued⟩ := hcontinued
      rw [takeToken_continued hs hcontinued] at h
      have hnext := Source.alike_next { s with rest := '\n' :: src }
      have hrest := lexes_of_takeToken (hnext.pushed.trans hs) h ht
      exact hrest.passOver ['\\', '\n']
        (by rw [Source.rest_next]; exact hcontinued) (by simp) ⟨hnext.pushed, hnext.aliases⟩
    by_cases hcomment : ∃ src, s.rest = '#' :: src
    · obtain ⟨src, hcomment⟩ := hcomment
      obtain ⟨u, htake, halike, ⟨front, hfront⟩, hhead⟩ := takeToken_comment (n := n) hs hcomment
      rw [htake] at h
      -- A comment goes on to the end of its line, where no word begins.
      cases n with
      | zero => exact absurd h fault_ne_ok
      | succ n =>
        obtain ⟨t', s'', h', hmark, halike', front', hfront', hand⟩ :=
          takeToken_mark_of_head n (halike.pushed.trans hs) hhead
        obtain ⟨rfl, rfl⟩ := Prod.mk.inj (Except.ok.inj (h.symm.trans h'))
        exact .mark front (by rw [hfront, hfront', List.append_assoc]) hmark hand
          (halike.trans halike')
    · simp only [not_exists, not_or] at hblank hcontinued hcomment
      exact (takeToken_mark n hs hstarts hblank hcontinued hcomment).lexes h

theorem gives_of_takeToken {t : Token} (h : takeToken n s = .ok (t, s')) (ht : t.IsLiteral) :
    Gives s t s' := by
  cases n with
  | zero => exact absurd h fault_ne_ok
  | succ n =>
    cases hs : s.pushed with
    | none => exact .read hs (lexes_of_takeToken hs h ht)
    | some t' =>
      rw [takeToken_pushed hs, Except.ok.injEq, Prod.mk.injEq] at h
      obtain ⟨rfl, rfl⟩ := h
      exact .pushed hs

/-- A word is taken where it begins. -/
theorem exists_takeToken {rest : List Char} {w : ShellWord} (hs : s.pushed = none)
    (hstarts : startsWord s.rest = true) (h : Literal .bare s.rest w rest) :
    ∃ s', s'.rest = rest ∧ s.Alike s' ∧
      ∀ n, s.rest.length + 1 < n → takeToken n s = .ok (.word w.joined, s') := by
  obtain ⟨s', hs', halike, hparts⟩ := h.exists_parts (.inl rfl) rfl
  refine ⟨s', hs', halike, eq_of_lt_bound fun n hn => ?_⟩
  rw [takeToken_word hs hstarts, bind_of_eq_ok (hparts n hn), pure_apply]

/-- A word is taken behind a blank. -/
theorem exists_takeToken_blank {rest : List Char} {w : ShellWord} (hs : s.pushed = none)
    (hrest : s.rest = ' ' :: src) (hstarts : startsWord src = true)
    (h : Literal .bare src w rest) : ∃ s', s'.rest = rest ∧ s.Alike s' ∧
      ∀ n, s.rest.length + 1 < n → takeToken n s = .ok (.word w.joined, s') := by
  obtain ⟨s', hs', halike, htake⟩ := exists_takeToken (s := { s with rest := src }) hs hstarts h
  refine ⟨s', hs', ⟨halike.pushed, halike.aliases⟩, eq_of_lt_bound fun n hn => ?_⟩
  rw [hrest, List.length_cons] at hn
  rw [takeToken_blank hs (.inl hrest)]
  exact htake n hn

end Reader

end SageEditor.Shell

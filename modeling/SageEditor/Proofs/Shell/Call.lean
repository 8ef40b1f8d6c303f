/-
Commands that call programs.

* `Calls` — the calls that a command makes, each a list of words;
* `ReadsAs` — a text is a script of one line that makes given calls;
* `Reader.takesWords_of_nextLine` — the words of the first call are read from the front of such a
  text, and the other calls stand behind them.

Design notes: a command is known from what it has become when it is read, so each function of the
reader is taken apart only where its result can still be a call.  Of a token that is put back the
text is counted as still to be read.
-/
import SageEditor.Proofs.Shell.Token

namespace SageEditor.Shell

/-- Whether a command is a simple one or joins two of which the second needs the first. -/
def Command.isCall : Command → Bool
  | .simple .. | .both .. => true
  | _ => false

/-- A command calls programs with the words given, each only if all before it ended well. -/
inductive Calls : Command → List (List (List Char)) → Prop where
  | simple {line : Nat} {ws : List ShellWord} (h : ∀ w ∈ ws, w.IsConstant) :
      Calls (.simple line [] ws []) [ws.map ShellWord.text]
  | both {first second : Command} {calls more : List (List (List Char))} (h : Calls first calls)
      (h' : Calls second more) : Calls (.both first second) (calls ++ more)

theorem Calls.isCall {c : Command} {calls : List (List (List Char))} (h : Calls c calls) :
    c.isCall = true := by
  cases h <;> rfl

theorem Calls.eq {c : Command} {calls calls' : List (List (List Char))} (h : Calls c calls)
    (h' : Calls c calls') : calls = calls' := by
  induction h generalizing calls' with
  | simple _ => cases h'; rfl
  | both _ _ ih ihmore =>
    cases h' with
    | both h h' => rw [ih h, ihmore h']

/-- In every state of the shell the words of a call expand to what it is called with. -/
theorem Calls.expandAll_eq {line n : Nat} {ws : List ShellWord} {call : List (List Char)}
    {s : State} (h : Calls (.simple line [] ws []) [call])
    (hn : ∀ w ∈ ws, w.length + ws.length + 1 < n) (hs : s.jump = none) :
    (expandAll n ws).run s = (call, s) := by
  cases h with
  | simple hws => exact Shell.expandAll_eq hws hn hs

theorem ShellWord.IsConstant.literal_ne_none {w : ShellWord} (h : w.IsConstant) :
    ∀ p ∈ w, p.literal? ≠ none := by
  intro p hp hnone
  have hfixed := List.all_eq_true.mp h.fixed p hp
  cases p with
  | text => cases hnone
  | _ => cases hfixed

theorem ShellWord.IsConstant.isLiteral {w : ShellWord} (h : w.IsConstant) :
    Token.IsLiteral (.word w) := by
  rintro _ ⟨⟩
  exact h.literal_ne_none

/-- A text is a script of one line that makes the given calls in every state of the shell. -/
def ReadsAs (text : List Char) (calls : List (List (List Char))) : Prop :=
  ∃ c rest, (Source.ofText text).nextLine = .ok (.sequence [c], rest) ∧
    rest.isFinished = true ∧ Calls c calls

/-- A source gives words up to a mark, which is put back. -/
inductive TakesWords : Source → List ShellWord → Source → Prop where
  | done {s u : Source} {t : Token} (ht : Gives s t u) (hmark : ∀ w, t ≠ .word w) :
      TakesWords s [] { u with pushed := some t }
  | word {s u s' : Source} {w : ShellWord} {ws : List ShellWord} (ht : Gives s (.word w) u)
      (h : TakesWords u ws s') : TakesWords s (w :: ws) s'

/-- The text of a token, as far as it matters. -/
def Token.text : Token → List Char
  | .andIf => ['&', '&']
  | .word w => ShellWord.text w
  | _ => []

/-- What is still to be read, where a token that has been put back counts as its text. -/
def Source.due (s : Source) : List Char := (s.pushed.map Token.text).getD [] ++ s.rest

theorem Source.due_of_none {s : Source} (h : s.pushed = none) : s.due = s.rest := by
  rw [due, h]
  rfl

theorem Gives.sublist_due {s s' : Source} {t : Token} (h : Gives s t s') :
    (t.text ++ s'.rest).Sublist s.due := by
  cases h with
  | pushed hs =>
    rw [Source.due, hs]
    exact .refl _
  | read hs h =>
    rw [Source.due_of_none hs]
    cases h with
    | word _ hrest _ _ hlit _ =>
      obtain ⟨cs, rfl, hcs⟩ := hlit.exists_leaves
      rw [hrest, Token.text, ShellWord.text_joined]
      exact (hcs.sublist.append (.refl _)).trans (List.sublist_append_right _ _)
    | @mark _ _ pre front hrest hmark hfront _ =>
      have htext : t.text.Sublist front := by
        cases t with
        | word w => exact (hmark w rfl).elim
        | andIf => rw [hfront rfl]; exact .refl _
        | _ => exact List.nil_sublist _
      rw [hrest, List.append_assoc]
      exact (htext.append (.refl _)).trans (List.sublist_append_right _ _)

namespace TakesWords

variable {s s' : Source} {ws : List ShellWord}

theorem sublist_due (h : TakesWords s ws s') :
    (ws.flatMap ShellWord.text ++ s'.due).Sublist s.due := by
  induction h with
  | done ht _ => exact ht.sublist_due
  | word ht _ ih =>
    rw [Source.due_of_none ht.pushed_eq] at ih
    rw [List.flatMap_cons, List.append_assoc]
    exact (List.Sublist.append (.refl _) ih).trans ht.sublist_due

theorem exists_mark (h : TakesWords s ws s') :
    ∃ t, s'.pushed = some t ∧ ∀ w, t ≠ .word w := by
  induction h with
  | done _ hmark => exact ⟨_, rfl, hmark⟩
  | word _ _ ih => exact ih

theorem isLiteral {t : Token} (h : TakesWords s ws s') (hs : s.pushed = some t)
    (hws : ∀ w ∈ ws, Token.IsLiteral (.word w)) : t.IsLiteral := by
  have hgives : ∀ {t' : Token} {u : Source}, Gives s t' u → t' = t := by
    intro t' u hgives
    cases hgives with
    | pushed h => exact Option.some.inj (h.symm.trans hs)
    | read h => cases h.symm.trans hs
  cases h with
  | done ht hmark => exact hgives ht ▸ fun w hw => (hmark w hw).elim
  | word ht _ => exact hgives ht ▸ hws _ List.mem_cons_self

theorem aliases_eq (h : TakesWords s ws s') : s'.aliases = s.aliases := by
  induction h with
  | done ht _ => exact ht.aliases_eq
  | word ht _ ih => exact ih.trans ht.aliases_eq

end TakesWords

namespace Reader

variable {n : Nat} {s s' : Source} {c : Command}

theorem literal_of_plain : ∀ {w : ShellWord} {cs : List Char}, ShellWord.plain? w = some cs →
    ∀ p ∈ w, p.literal? ≠ none
  | [], _, _ => by simp
  | p :: w, cs, h => by
    cases p with
    | text ds quoted =>
      cases quoted with
      | true => cases h
      | false =>
        obtain ⟨es, hes, -⟩ := Option.map_eq_some_iff.mp h
        exact List.forall_mem_cons.mpr ⟨Option.some_ne_none _, literal_of_plain hes⟩
    | _ => cases h

theorem exists_of_apply_eq {α : Type} {x : Reader α} {e : Except Fault (α × Source)} (h : x s = e) :
    ∃ r, x = r ∧ r s = e := ⟨x, rfl, h⟩

/-- A list of commands begins with those that have been read. -/
theorem list_shape : ∀ {n : Nat} {kind : ListKind} {started : Bool} {read : List Command}
    {s s' : Source} {c : Command}, list kind started read n s = .ok (c, s') →
      ∃ more, c = .sequence (read.reverse ++ more)
  | 0, _, _, _, _, _, _, h => absurd h fault_ne_ok
  | n + 1, kind, started, read, s, s', c, h => by
    rw [list] at h
    obtain ⟨t, u, -, h⟩ := bind_eq_ok.mp h
    cases t with
    | newline =>
      obtain ⟨rfl, -⟩ := pure_eq_ok.mp h
      exact ⟨[], by rw [List.append_nil]⟩
    | finish =>
      obtain ⟨rfl, -⟩ := pure_eq_ok.mp h
      exact ⟨[], by rw [List.append_nil]⟩
    | _ =>
      -- One more command is read, and what separates it from the next decides how it is kept.
      dsimp only at h
      rw [push_bind] at h
      split at h
      · obtain ⟨rfl, -⟩ := pure_eq_ok.mp h
        exact ⟨[], by rw [List.append_nil]⟩
      · obtain ⟨command, u, -, h⟩ := bind_eq_ok.mp h
        obtain ⟨t, u, -, h⟩ := bind_eq_ok.mp h
        cases t with
        | ampersand =>
          obtain ⟨more, rfl⟩ := list_shape h
          exact ⟨.background command :: more, by simp⟩
        | semicolon =>
          obtain ⟨more, rfl⟩ := list_shape h
          exact ⟨command :: more, by simp⟩
        | newline =>
          obtain ⟨more, rfl⟩ := list_shape h
          exact ⟨command :: more, by simp⟩
        | finish =>
          obtain ⟨rfl, -⟩ := pure_eq_ok.mp h
          exact ⟨[command], by simp⟩
        | _ =>
          dsimp only at h
          split at h
          · obtain ⟨_, _, h, -⟩ := bind_eq_ok.mp h
            exact absurd h unexpected_ne_ok
          · rw [push_bind] at h
            obtain ⟨rfl, -⟩ := pure_eq_ok.mp h
            exact ⟨[command], by simp⟩

theorem stages_shape : ∀ {n : Nat} {read : List Command} {s s' : Source} {c : Command},
    stages read n s = .ok (c, s') → read ≠ [] → c.isCall = false
  | 0, _, _, _, _, h, _ => absurd h fault_ne_ok
  | n + 1, read, s, s', c, h, hread => by
    rw [stages] at h
    obtain ⟨stage, u, -, h⟩ := bind_eq_ok.mp h
    obtain ⟨t, u, -, h⟩ := bind_eq_ok.mp h
    cases t with
    | bar =>
      obtain ⟨t, u, -, h⟩ := bind_eq_ok.mp h
      rw [push_bind] at h
      exact stages_shape h (List.cons_ne_nil _ _)
    | _ =>
      dsimp only at h
      rw [push_bind] at h
      obtain ⟨rfl, -⟩ := pure_eq_ok.mp h
      rw [if_neg (by simpa using hread)]
      rfl

theorem conditional_shape {n : Nat} {s s' : Source} {c : Command}
    (h : conditional n s = .ok (c, s')) : c.isCall = false := by
  cases n with
  | zero => exact absurd h fault_ne_ok
  | succ n =>
    rw [conditional] at h
    obtain ⟨condition, u, -, h⟩ := bind_eq_ok.mp h
    obtain ⟨_, u, -, h⟩ := bind_eq_ok.mp h
    obtain ⟨yes, u, -, h⟩ := bind_eq_ok.mp h
    obtain ⟨t, u, -, h⟩ := bind_eq_ok.mp h
    obtain ⟨r, hr, h⟩ := exists_of_apply_eq h
    split at hr <;> subst hr
    · obtain ⟨no, u, -, h⟩ := bind_eq_ok.mp h
      obtain ⟨rfl, -⟩ := pure_eq_ok.mp h
      rfl
    · obtain ⟨no, u, -, h⟩ := bind_eq_ok.mp h
      obtain ⟨_, u, -, h⟩ := bind_eq_ok.mp h
      obtain ⟨rfl, -⟩ := pure_eq_ok.mp h
      rfl
    · rw [push_bind] at h
      obtain ⟨_, u, -, h⟩ := bind_eq_ok.mp h
      obtain ⟨rfl, -⟩ := pure_eq_ok.mp h
      rfl

theorem forLoop_shape {n : Nat} {s s' : Source} {c : Command}
    (h : forLoop n s = .ok (c, s')) : c.isCall = false := by
  cases n with
  | zero => exact absurd h fault_ne_ok
  | succ n =>
    rw [forLoop] at h
    rw [get_bind] at h
    dsimp only at h
    obtain ⟨t, u, -, h⟩ := bind_eq_ok.mp h
    cases t with
    | word w =>
      dsimp only at h
      cases hw : ShellWord.plain? w with
      | none =>
        rw [hw] at h
        exact absurd h fault_ne_ok
      | some name =>
        rw [hw] at h
        dsimp only at h
        split at h
        · obtain ⟨_, _, h, -⟩ := bind_eq_ok.mp h
          exact absurd h fault_ne_ok
        · obtain ⟨t, u, -, h⟩ := bind_eq_ok.mp h
          split at h
          · obtain ⟨_, _, -, h⟩ := bind_eq_ok.mp h
            obtain ⟨_, _, -, h⟩ := bind_eq_ok.mp h
            obtain ⟨rfl, -⟩ := pure_eq_ok.mp h
            rfl
          · cases t with
            | semicolon =>
              obtain ⟨_, _, -, h⟩ := bind_eq_ok.mp h
              obtain ⟨rfl, -⟩ := pure_eq_ok.mp h
              rfl
            | _ =>
              dsimp only at h
              rw [push_bind] at h
              obtain ⟨_, _, -, h⟩ := bind_eq_ok.mp h
              obtain ⟨rfl, -⟩ := pure_eq_ok.mp h
              rfl
    | _ => exact absurd h fault_ne_ok

theorem replaceAlias_of_nil (name : List Char) (h : s.aliases = []) :
    replaceAlias name s = .ok (false, s) := by
  rw [replaceAlias, get_bind]
  simp [h]

/-- A command behind which redirections may stand is a call only without them. -/
theorem isCall_of_redirects {x : Command} {line : Nat} {f : List Redirect → Reader Command}
    (h : (redirects n >>= f) s = .ok (c, s')) (hc : c.isCall = true) (hnil : f [] = pure x)
    (hcons : ∀ r rs, f (r :: rs) = pure (.redirected line x (r :: rs))) : x.isCall = true := by
  obtain ⟨rs, u, -, h⟩ := bind_eq_ok.mp h
  cases rs with
  | nil =>
    rw [hnil] at h
    obtain ⟨rfl, -⟩ := pure_eq_ok.mp h
    exact hc
  | cons r rs =>
    rw [hcons] at h
    obtain ⟨rfl, -⟩ := pure_eq_ok.mp h
    cases hc

/-- A simple command is read from its first token on. -/
theorem simple_of_command (h : command n s = .ok (c, s')) (hc : c.isCall = true)
    (haliases : ∀ m t u, takeToken m s = .ok (t, u) → t.IsLiteral → u.aliases = []) :
    ∃ m t u line, takeToken m s = .ok (t, u) ∧ t.reserved? = none ∧
      simple line [] [] [] m { u with pushed := some t } = .ok (c, s') := by
  cases n with
  | zero => exact absurd h fault_ne_ok
  | succ n =>
    rw [command] at h
    obtain ⟨t, u, ht, h⟩ := bind_eq_ok.mp h
    rw [get_bind] at h
    dsimp only at h
    obtain ⟨r, hr, h⟩ := exists_of_apply_eq h
    -- A reserved word or a parenthesis opens a command of another kind: a conditional first.
    split at hr <;> subst hr
    case h_1 =>
      obtain ⟨x, v, hx, h⟩ := bind_eq_ok.mp h
      exact absurd (isCall_of_redirects h hc rfl fun _ _ => rfl) (by simp [conditional_shape hx])
    -- A loop, be it on a condition or over words.
    case h_2 | h_3 =>
      obtain ⟨_, _, -, h⟩ := bind_eq_ok.mp h
      obtain ⟨_, _, -, h⟩ := bind_eq_ok.mp h
      cases isCall_of_redirects h hc rfl fun _ _ => rfl
    case h_4 =>
      obtain ⟨x, v, hx, h⟩ := bind_eq_ok.mp h
      exact absurd (isCall_of_redirects h hc rfl fun _ _ => rfl) (by simp [forLoop_shape hx])
    -- A choice.
    case h_5 =>
      obtain ⟨t, _, -, h⟩ := bind_eq_ok.mp h
      cases t with
      | word =>
        obtain ⟨_, _, -, h⟩ := bind_eq_ok.mp h
        obtain ⟨_, _, -, h⟩ := bind_eq_ok.mp h
        cases isCall_of_redirects h hc rfl fun _ _ => rfl
      | _ => exact absurd h unexpectedFor_ne_ok
    -- Commands between braces or parentheses are a sequence, also if they are only one.
    case h_6 =>
      obtain ⟨x, v, hx, h⟩ := bind_eq_ok.mp h
      obtain ⟨_, _, -, h⟩ := bind_eq_ok.mp h
      obtain ⟨more, rfl⟩ := list_shape hx
      cases isCall_of_redirects h hc rfl fun _ _ => rfl
    case h_7 =>
      obtain ⟨_, _, -, h⟩ := bind_eq_ok.mp h
      obtain ⟨t, _, -, h⟩ := bind_eq_ok.mp h
      cases t with
      | closing => cases isCall_of_redirects h hc rfl fun _ _ => rfl
      | _ => exact absurd h unexpectedFor_ne_ok
    case h_8 => exact absurd h unexpected_ne_ok
    -- What begins with a word or a redirection is a simple command.
    case h_9 w _ hreserved =>
      refine ⟨n, _, u, u.line, ht, hreserved, ?_⟩
      cases hplain : ShellWord.plain? w with
      | none =>
        rw [hplain] at h
        exact h
      | some name =>
        -- A plain name could be an alias, of which there is none before the first command.
        have hliteral : Token.IsLiteral (.word w) := by
          rintro _ ⟨⟩
          exact literal_of_plain hplain
        have halias := replaceAlias_of_nil name (haliases _ _ _ ht hliteral)
        rw [hplain] at h
        dsimp only at h
        rw [bind_of_eq_ok halias] at h
        exact h
    case h_10 => exact ⟨n, _, u, u.line, ht, rfl, h⟩
    case h_11 => exact absurd h unexpected_ne_ok

/-- A simple command that calls a program is read word by word. -/
theorem takesWords_of_simple : ∀ {n : Nat} {line : Nat}
    {assignments : List (List Char × ShellWord)} {words : List ShellWord} {rs : List Redirect}
    {s s' : Source} {c : Command} {calls : List (List (List Char))},
    simple line assignments words rs n s = .ok (c, s') → Calls c calls →
      assignments = [] ∧ rs = [] ∧ ∃ more, calls = [(words.reverse ++ more).map ShellWord.text] ∧
        (∀ w ∈ words.reverse ++ more, w.IsConstant) ∧ TakesWords s more s' ∧
          (words = [] → ∀ w ∈ more.head?, assignment? w = none)
  | 0, _, _, _, _, _, _, _, _, h, _ => absurd h fault_ne_ok
  | n + 1, line, assignments, words, rs, s, s', c, calls, h, hcalls => by
    rw [simple] at h
    obtain ⟨t, u, ht, h⟩ := bind_eq_ok.mp h
    obtain ⟨r, hr, h⟩ := exists_of_apply_eq h
    split at hr
    case h_1 w =>
      subst hr
      -- An assignment or a redirection would be part of the command that is read in the end.
      cases hassignment : (if words.isEmpty then assignment? w else none) with
      | some a =>
        rw [hassignment] at h
        obtain ⟨hassignments, -⟩ := takesWords_of_simple h hcalls
        cases hassignments
      | none =>
        rw [hassignment] at h
        obtain ⟨rfl, rfl, more, rfl, hconstant, htakes, -⟩ := takesWords_of_simple h hcalls
        rw [List.reverse_cons, List.append_assoc] at hconstant ⊢
        have hw := hconstant w (by simp)
        refine ⟨rfl, rfl, w :: more, rfl, hconstant,
          .word (gives_of_takeToken ht hw.isLiteral) htakes, ?_⟩
        rintro rfl _ ⟨⟩
        exact hassignment
    case h_2 =>
      subst hr
      obtain ⟨_, _, -, h⟩ := bind_eq_ok.mp h
      obtain ⟨-, hrs, -⟩ := takesWords_of_simple h hcalls
      cases hrs
    -- A parenthesis behind the first word defines a function, which calls nothing.
    case h_3 =>
      subst hr
      obtain ⟨t, _, -, h⟩ := bind_eq_ok.mp h
      cases t with
      | closing =>
        dsimp only at h
        obtain ⟨r, hr, h⟩ := exists_of_apply_eq h
        split at hr <;> subst hr
        · split at h
          · obtain ⟨_, _, h, -⟩ := bind_eq_ok.mp h
            exact absurd h fault_ne_ok
          · obtain ⟨_, _, -, h⟩ := bind_eq_ok.mp h
            obtain ⟨_, _, -, h⟩ := bind_eq_ok.mp h
            obtain ⟨_, _, -, h⟩ := bind_eq_ok.mp h
            obtain ⟨rfl, -⟩ := pure_eq_ok.mp h
            cases hcalls
        · exact absurd h fault_ne_ok
      | _ => exact absurd h unexpectedFor_ne_ok
    -- Any other token ends the command and is put back.
    case h_4 hmark _ _ =>
      subst hr
      rw [push_bind] at h
      obtain ⟨rfl, rfl⟩ := pure_eq_ok.mp h
      generalize hassignments : assignments.reverse = as at hcalls
      generalize hrs : rs.reverse = rs' at hcalls
      cases hcalls with
      | simple hconstant =>
        have hliteral : t.IsLiteral := fun w hw => (hmark w hw).elim
        refine ⟨List.reverse_eq_nil_iff.mp hassignments, List.reverse_eq_nil_iff.mp hrs, [], ?_⟩
        rw [List.append_nil]
        exact ⟨rfl, hconstant, .done (gives_of_takeToken ht hliteral) hmark, by simp⟩

theorem eq_of_takeToken_pushed {m : Nat} {t t' : Token} {u : Source} (hs : s.pushed = some t)
    (h : takeToken m s = .ok (t', u)) : t' = t ∧ u = { s with pushed := none } := by
  cases m with
  | zero => exact absurd h fault_ne_ok
  | succ m =>
    rw [takeToken_pushed hs, Except.ok.injEq, Prod.mk.injEq] at h
    exact ⟨h.1.symm, h.2.symm⟩

theorem takesWords_of_pushed {t : Token} {u : Source} {ws : List ShellWord}
    (ht : takeToken n s = .ok (t, u)) (h : TakesWords { u with pushed := some t } ws s')
    (hws : ∀ w ∈ ws, ∀ p ∈ w, p.literal? ≠ none) :
    TakesWords s ws s' ∧ ∀ w ∈ ws.head?, t = .word w := by
  cases h with
  | @done _ v t' ht' hmark =>
    cases ht' with
    | read hs => cases hs
    | pushed hs =>
      obtain rfl := Option.some.inj hs
      have hgives := gives_of_takeToken ht fun w hw => (hmark w hw).elim
      have hdone := TakesWords.done hgives hmark
      exact ⟨hdone, by simp⟩
  | @word _ v _ w ws ht' h =>
    cases ht' with
    | read hs => cases hs
    | pushed hs =>
      obtain rfl := Option.some.inj hs
      have hgives := gives_of_takeToken ht fun w' hw' => by
        cases hw'
        exact hws w List.mem_cons_self
      have hu : ({ u with pushed := none } : Source) = u := by
        rw [← hgives.pushed_eq]
      exact ⟨.word hgives (hu ▸ h), by simp⟩

/-- A call that is read as a pipeline is a simple command. -/
theorem takesWords_of_pipeline {calls : List (List (List Char))}
    (h : pipeline n s = .ok (c, s')) (hcalls : Calls c calls)
    (haliases : ∀ m t u, takeToken m s = .ok (t, u) → t.IsLiteral → u.aliases = []) :
    ∃ ws, calls = [ws.map ShellWord.text] ∧ (∀ w ∈ ws, w.IsConstant) ∧ TakesWords s ws s' ∧
        ∀ w ∈ ws.head?, Token.reserved? (.word w) = none ∧ assignment? w = none := by
  cases n with
  | zero => exact absurd h fault_ne_ok
  | succ n =>
    rw [pipeline] at h
    obtain ⟨t, u, ht, h⟩ := bind_eq_ok.mp h
    split at h
    · obtain ⟨_, _, -, h⟩ := bind_eq_ok.mp h
      obtain ⟨rfl, -⟩ := pure_eq_ok.mp h
      cases hcalls
    rw [push_bind] at h
    cases n with
    | zero => exact absurd h fault_ne_ok
    | succ n =>
      rw [stages] at h
      obtain ⟨stage, v, hstage, h⟩ := bind_eq_ok.mp h
      obtain ⟨t', v', ht', h⟩ := bind_eq_ok.mp h
      -- A further stage makes a pipeline.
      obtain ⟨rfl, rfl⟩ : stage = c ∧ { v' with pushed := some t' } = s' := by
        cases t' with
        | bar =>
          obtain ⟨_, _, -, h⟩ := bind_eq_ok.mp h
          rw [push_bind] at h
          exact absurd hcalls.isCall (by simp [stages_shape h (List.cons_ne_nil _ _)])
        | _ => exact pure_eq_ok.mp h
      obtain ⟨m, t'', u', line', ht'', hreserved, hsimple⟩ :=
        simple_of_command hstage hcalls.isCall (by
          intro m t' u' ht' hliteral
          obtain ⟨rfl, rfl⟩ := eq_of_takeToken_pushed rfl ht'
          exact (haliases _ _ _ ht hliteral :))
      obtain ⟨rfl, rfl⟩ := eq_of_takeToken_pushed rfl ht''
      obtain ⟨-, -, ws, rfl, hconstant, htakes, hassignment⟩ :=
        takesWords_of_simple hsimple hcalls
      rw [List.reverse_nil, List.nil_append] at hconstant
      obtain ⟨htakes, hfirst⟩ := takesWords_of_pushed ht htakes fun w hw =>
        (hconstant w hw).literal_ne_none
      refine ⟨ws, rfl, hconstant, ?_, fun w hw =>
        ⟨hfirst w hw ▸ hreserved, hassignment rfl w hw⟩⟩
      obtain ⟨mark, hmark, -⟩ := htakes.exists_mark
      obtain ⟨rfl, rfl⟩ := eq_of_takeToken_pushed hmark ht'
      rwa [← hmark]

theorem sublist_of_takeNext : ∀ {n : Nat} {s s' : Source} {t : Token},
    takeNext n s = .ok (t, s') → t.IsLiteral →
      (t.text ++ s'.rest).Sublist s.due ∧ s'.aliases = s.aliases
  | 0, _, _, _, h, _ => absurd h fault_ne_ok
  | n + 1, s, s', t, h, hliteral => by
    rw [takeNext] at h
    obtain ⟨t', u, ht', h⟩ := bind_eq_ok.mp h
    obtain ⟨r, hr, h⟩ := exists_of_apply_eq h
    split at hr <;> subst hr
    · have hgives := gives_of_takeToken ht' nofun
      obtain ⟨hrest, haliases⟩ := sublist_of_takeNext h hliteral
      rw [Source.due_of_none hgives.pushed_eq] at hrest
      exact ⟨hrest.trans hgives.sublist_due, haliases.trans hgives.aliases_eq⟩
    · obtain ⟨rfl, rfl⟩ := pure_eq_ok.mp h
      have hgives := gives_of_takeToken ht' hliteral
      exact ⟨hgives.sublist_due, hgives.aliases_eq⟩

/-- What conditions join to a command leaves that command in front. -/
theorem calls_of_andOrFrom : ∀ {n : Nat} {first c : Command} {s s' : Source}
    {calls : List (List (List Char))}, andOrFrom first n s = .ok (c, s') → Calls c calls →
      ∃ calls', Calls first calls'
  | 0, _, _, _, _, _, h, _ => absurd h fault_ne_ok
  | n + 1, first, c, s, s', calls, h, hcalls => by
    rw [andOrFrom] at h
    obtain ⟨t, u, ht, h⟩ := bind_eq_ok.mp h
    cases t with
    | andIf =>
      obtain ⟨_, _, -, h⟩ := bind_eq_ok.mp h
      rw [push_bind] at h
      obtain ⟨_, _, -, h⟩ := bind_eq_ok.mp h
      obtain ⟨calls', hfirst⟩ := calls_of_andOrFrom h hcalls
      cases hfirst with
      | both hfirst _ => exact ⟨_, hfirst⟩
    | orIf =>
      obtain ⟨_, _, -, h⟩ := bind_eq_ok.mp h
      rw [push_bind] at h
      obtain ⟨_, _, -, h⟩ := bind_eq_ok.mp h
      obtain ⟨calls', hfirst⟩ := calls_of_andOrFrom h hcalls
      cases hfirst
    | _ =>
      obtain ⟨rfl, -⟩ := pure_eq_ok.mp h
      exact ⟨calls, hcalls⟩

/-- Calls that are joined to a command stand in the text behind it, each behind its sign. -/
theorem sublist_of_andOrFrom : ∀ {n : Nat} {first c : Command} {s s' : Source}
    {calls : List (List (List Char))}, andOrFrom first n s = .ok (c, s') → Calls c calls →
      s.aliases = [] → ∃ calls' more, calls = calls' ++ more ∧ Calls first calls' ∧
        (more.flatMap fun call => ['&', '&'] ++ call.flatten).Sublist s.due
  | 0, _, _, _, _, _, h, _, _ => absurd h fault_ne_ok
  | n + 1, first, c, s, s', calls, h, hcalls, haliases => by
    rw [andOrFrom] at h
    obtain ⟨t, u, ht, h⟩ := bind_eq_ok.mp h
    cases t with
    | andIf =>
      have hsign := gives_of_takeToken ht nofun
      obtain ⟨t, v, hnext, h⟩ := bind_eq_ok.mp h
      rw [push_bind] at h
      obtain ⟨second, s'', hsecond, h⟩ := bind_eq_ok.mp h
      obtain ⟨calls', hboth⟩ := calls_of_andOrFrom h hcalls
      cases hboth with
      | both hfirst hcall =>
        obtain ⟨ws, rfl, hconstant, htakes, -⟩ := takesWords_of_pipeline hsecond hcall
          fun m t' v' ht' hliteral => by
            obtain ⟨rfl, rfl⟩ := eq_of_takeToken_pushed rfl ht'
            exact ((sublist_of_takeNext hnext hliteral).2.trans hsign.aliases_eq).trans haliases
        have hliteral : t.IsLiteral :=
          htakes.isLiteral rfl fun w hw => (hconstant w hw).isLiteral
        obtain ⟨hrest, haliases'⟩ := sublist_of_takeNext hnext hliteral
        -- What is joined further on stands behind the words of this call and those behind the sign.
        obtain ⟨calls₁, more, rfl, hcalls₁, hmore⟩ := sublist_of_andOrFrom h hcalls
          (htakes.aliases_eq.trans ((haliases'.trans hsign.aliases_eq).trans haliases))
        cases hcalls₁ with
        | @both _ _ calls₁ _ hfirst' hcall' =>
          obtain rfl := hcall'.eq hcall
          refine ⟨calls₁, [ws.map ShellWord.text] ++ more, List.append_assoc .., hfirst', ?_⟩
          have hwords := (List.Sublist.append (.refl (ws.flatMap ShellWord.text)) hmore).trans
            (htakes.sublist_due.trans hrest)
          rw [Source.due_of_none hsign.pushed_eq] at hwords
          have hall := (List.Sublist.append (.refl ['&', '&']) hwords).trans hsign.sublist_due
          simpa [List.flatMap_def] using hall
    | orIf =>
      obtain ⟨_, _, -, h⟩ := bind_eq_ok.mp h
      rw [push_bind] at h
      obtain ⟨_, _, -, h⟩ := bind_eq_ok.mp h
      obtain ⟨calls', hfirst⟩ := calls_of_andOrFrom h hcalls
      cases hfirst
    | _ =>
      obtain ⟨rfl, -⟩ := pure_eq_ok.mp h
      exact ⟨calls, [], by simp, hcalls, List.nil_sublist _⟩

/-- The only command of a line is read from its first token on. -/
theorem exists_andOr_of_list {calls : List (List (List Char))}
    (h : list .line false [] (n + 1) s = .ok (.sequence [c], s')) (hcalls : Calls c calls) :
    ∃ t u v, takeToken n s = .ok (t, u) ∧ andOr n { u with pushed := some t } = .ok (c, v) := by
  rw [list] at h
  obtain ⟨t, u, ht, h⟩ := bind_eq_ok.mp h
  rw [if_pos rfl] at ht
  -- A line that is empty has no command.
  cases t with
  | newline => cases (pure_eq_ok.mp h).1
  | finish => cases (pure_eq_ok.mp h).1
  | _ =>
    dsimp only at h
    rw [push_bind, if_neg (by simp)] at h
    obtain ⟨command, v, hread, h⟩ := bind_eq_ok.mp h
    obtain ⟨t', v', -, h⟩ := bind_eq_ok.mp h
    -- A command on the line behind the first one would be a second one of the sequence.
    suffices command = c from ⟨_, u, v, ht, this ▸ hread⟩
    cases t' with
    | ampersand =>
      obtain ⟨more, hmore⟩ := list_shape h
      obtain ⟨rfl, -⟩ := List.cons.inj (Command.sequence.inj hmore)
      cases hcalls
    | semicolon =>
      obtain ⟨more, hmore⟩ := list_shape h
      exact (List.cons.inj (Command.sequence.inj hmore)).1.symm
    | newline =>
      obtain ⟨more, hmore⟩ := list_shape h
      exact (List.cons.inj (Command.sequence.inj hmore)).1.symm
    | finish => exact (List.cons.inj (Command.sequence.inj (pure_eq_ok.mp h).1)).1
    | _ =>
      dsimp only at h
      rw [if_pos rfl] at h
      obtain ⟨_, _, h, -⟩ := bind_eq_ok.mp h
      exact absurd h unexpected_ne_ok

/-- The words of the first call are read from the front of the text, and all further calls stand
behind them. -/
theorem takesWords_of_nextLine {text : List Char} {rest : Source}
    {calls : List (List (List Char))}
    (h : (Source.ofText text).nextLine = .ok (.sequence [c], rest)) (hcalls : Calls c calls) :
    ∃ ws more s', calls = ws.map ShellWord.text :: more ∧ (∀ w ∈ ws, w.IsConstant) ∧
      TakesWords (.ofText text) ws s' ∧
      (∀ w ∈ ws.head?, Token.reserved? (.word w) = none ∧ assignment? w = none) ∧
      (more.flatMap fun call => ['&', '&'] ++ call.flatten).Sublist s'.due := by
  rw [Source.nextLine] at h
  obtain ⟨t, u, v, ht, hread⟩ := exists_andOr_of_list h hcalls
  generalize 20 * (Source.ofText text).rest.length + 99 = n at ht hread
  cases n with
  | zero => exact absurd hread fault_ne_ok
  | succ n =>
    rw [andOr] at hread
    obtain ⟨first, w, hpipeline, hread⟩ := bind_eq_ok.mp hread
    obtain ⟨calls₀, hfirst⟩ := calls_of_andOrFrom hread hcalls
    have haliases : t.IsLiteral → u.aliases = [] :=
      fun hliteral => (gives_of_takeToken ht hliteral).aliases_eq
    obtain ⟨ws, rfl, hconstant, htakes, hhead⟩ := takesWords_of_pipeline hpipeline hfirst
      fun m t' v' ht' hliteral => by
        obtain ⟨rfl, rfl⟩ := eq_of_takeToken_pushed rfl ht'
        exact haliases hliteral
    have hliteral : t.IsLiteral :=
      htakes.isLiteral rfl fun w hw => (hconstant w hw).isLiteral
    obtain ⟨calls', more, rfl, hfirst', hmore⟩ := sublist_of_andOrFrom hread hcalls
      (htakes.aliases_eq.trans (haliases hliteral))
    obtain rfl := hfirst'.eq hfirst
    -- The first token was put back for the pipeline, which takes the words the line gives.
    obtain ⟨hwords, -⟩ := takesWords_of_pushed ht htakes fun w hw =>
      (hconstant w hw).literal_ne_none
    exact ⟨ws, more, w, rfl, hconstant, hwords, hhead, hmore⟩

end Reader

end SageEditor.Shell

/-
Lines of calls.

* `Follow` — words that follow a text, each behind a blank;
* `Joins` — calls that follow a text, each behind the sign that lets it depend on those before it;
* `readsAs_of_follow` — a text that is written so is read as these calls.

Design notes: what a reader takes from a source is said for every bound that is large enough, since
each function hands a smaller one on.  The end of a call shows in the token behind it, which is put
back and decides what is read next.
-/
import SageEditor.Proofs.Shell.Call

namespace SageEditor.Shell

/-- Words that follow a text, each behind a blank. -/
inductive Follow : List Char → List ShellWord → List Char → Prop where
  | nil {rest : List Char} : Follow rest [] rest
  | cons {src more rest : List Char} {w : ShellWord} {ws : List ShellWord}
      (hstarts : startsWord src = true) (hlit : Literal .bare src w more)
      (h : Follow more ws rest) : Follow (' ' :: src) (w.joined :: ws) rest

theorem Follow.length_add_le {src rest : List Char} {ws : List ShellWord}
    (h : Follow src ws rest) : ws.length + rest.length ≤ src.length := by
  induction h with
  | nil => simp
  | cons _ hlit _ ih =>
    have := hlit.length_add_le
    simp only [List.length_cons]
    omega

/-- Words of which the first one names a program and the others are its arguments. -/
structure IsCall (ws : List ShellWord) : Prop where
  present : ws ≠ []
  constant : ∀ w ∈ ws, w.IsConstant
  reserved : ∀ w ∈ ws.head?, Token.reserved? (.word w) = none
  assignment : ∀ w ∈ ws.head?, assignment? w = none

/-- Calls that follow a text, each behind the sign that lets it depend on those before it. -/
inductive Joins : List Char → List (List ShellWord) → Prop where
  | nil : Joins [] []
  | cons {src rest : List Char} {ws : List ShellWord} {calls : List (List ShellWord)}
      (h : Follow src ws rest) (hws : IsCall ws) (hmore : Joins rest calls) :
      Joins (' ' :: '&' :: '&' :: src) (ws :: calls)

/-- A token that has been put back shows whether calls follow. -/
def Source.Awaits (s : Source) : List (List ShellWord) → Prop
  | [] => s.pushed = some .finish
  | ws :: calls =>
    s.pushed = some .andIf ∧ IsCall ws ∧ ∃ rest, Follow s.rest ws rest ∧ Joins rest calls

namespace Reader

/-- Every reader with a bound that is large enough takes words from a source up to a mark, which it
puts back. -/
inductive Supplies (k : ℕ) : Source → List ShellWord → Source → Prop where
  | done {s u : Source} {t : Token} (ht : ∀ m, k < m → takeToken m s = .ok (t, u))
      (hmark : t = .finish ∨ t = .andIf) : Supplies k s [] { u with pushed := some t }
  | word {s u s' : Source} {w : ShellWord} {ws : List ShellWord}
      (ht : ∀ m, k < m → takeToken m s = .ok (.word w, u)) (h : Supplies k u ws s') :
      Supplies k s (w :: ws) s'

variable {k n : ℕ} {s s' : Source} {ws : List ShellWord} {calls : List (List ShellWord)}

theorem exists_awaits {rest : List Char} (h : Joins rest calls) (hs : s.pushed = none)
    (hrest : s.rest = rest) : ∃ t u, (∀ m, 1 < m → takeToken m s = .ok (t, u)) ∧
      (t = .finish ∨ t = .andIf) ∧ Source.Awaits { u with pushed := some t } calls ∧
        u.aliases = s.aliases ∧ u.rest.length ≤ s.rest.length := by
  cases h with
  | nil =>
    refine ⟨.finish, s, ?_, .inl rfl, rfl, rfl, Nat.le_refl _⟩
    rintro (_ | m) hm
    · cases hm
    · exact takeToken_finish hs hrest
  | @cons src _ _ _ hfollow hws hmore =>
    refine ⟨.andIf, { s with rest := src }, ?_, .inr rfl, ⟨rfl, hws, _, hfollow, hmore⟩, rfl, ?_⟩
    · rintro (_ | _ | m) hm
      · cases hm
      · exact absurd hm (Nat.lt_irrefl _)
      · rw [takeToken_blank hs (.inl hrest)]
        exact takeToken_andIf hs rfl
    · rw [hrest]
      exact ((List.suffix_cons _ _).trans ((List.suffix_cons _ _).trans
        (List.suffix_cons _ _))).length_le

/-- Words that follow a text are taken from it, up to the token that shows which calls follow. -/
theorem exists_supplies {src rest : List Char} (h : Follow src ws rest)
    (hcalls : Joins rest calls) :
    ∀ {s : Source}, s.pushed = none → s.rest = src → src.length < k →
      ∃ s', Supplies k s ws s' ∧ s'.Awaits calls ∧ s'.aliases = s.aliases ∧
        s'.rest.length + ws.length ≤ s.rest.length := by
  induction h with
  | nil =>
    intro s hs hrest hk
    obtain ⟨t, u, ht, hmark, hawaits, haliases, hlength⟩ := exists_awaits hcalls hs hrest
    refine ⟨_, .done (t := t) (fun m hm => ht m ?_) hmark, hawaits, haliases, hlength⟩
    omega
  | cons hstarts hlit _ ih =>
    intro s hs hrest hk
    obtain ⟨u, hu, halike, ht⟩ := exists_takeToken_blank hs hrest hstarts hlit
    have hlength := hlit.length_add_le
    rw [List.length_cons] at hk
    obtain ⟨s', hsupplies, hawaits, haliases, hless⟩ :=
      ih hcalls (halike.pushed.trans hs) hu (by omega)
    refine ⟨s', .word (fun m hm => ht m ?_) hsupplies, hawaits,
      haliases.trans halike.aliases, ?_⟩
    · rw [hrest, List.length_cons]
      omega
    · rw [hrest, List.length_cons, List.length_cons]
      rw [hu] at hless
      omega

namespace Supplies

theorem exists_pushed (h : Supplies k s ws s') :
    ∃ t, s'.pushed = some t ∧ (t = .finish ∨ t = .andIf) := by
  induction h with
  | done _ hmark => exact ⟨_, rfl, hmark⟩
  | word _ _ ih => exact ih

/-- The words of a simple command are read one by one. -/
theorem simple_eq (h : Supplies k s ws s') : ∀ (line : ℕ) (words : List ShellWord) {n : ℕ},
    k + ws.length < n → (words = [] → ∀ w ∈ ws.head?, assignment? w = none) →
      simple line [] words [] (n + 1) s = .ok (.simple line [] (words.reverse ++ ws) [], s') := by
  induction h with
  | done ht hmark =>
    intro line words n hn _
    rw [simple, bind_of_eq_ok (ht n hn)]
    obtain rfl | rfl := hmark <;> simp
  | @word s u s' w ws ht _ ih =>
    intro line words n hn hwords
    rw [List.length_cons] at hn
    rw [simple, bind_of_eq_ok (ht n (by omega))]
    -- Only the first word could be an assignment.
    have hnone : (if words.isEmpty then assignment? w else none) = none := by
      cases words with
      | nil => exact hwords rfl w rfl
      | cons _ _ => rfl
    obtain ⟨n, rfl⟩ : ∃ m, n = m + 1 := ⟨n - 1, by omega⟩
    have hmore := ih line (w :: words) (n := n) (by omega) (by simp)
    rw [List.reverse_cons, List.append_assoc] at hmore
    dsimp only
    rw [hnone]
    exact hmore

/-- A token that has been taken and put back is the first word. -/
theorem exists_first {w : ShellWord} (h : Supplies k s (w :: ws) s') (hw : w.IsConstant) :
    ∃ u, (∀ m, k < m → takeToken m s = .ok (.word w, u)) ∧ u.aliases = s.aliases ∧
      Supplies k { u with pushed := some (.word w) } (w :: ws) s' := by
  cases h with
  | @word _ u _ _ _ ht h =>
    have hgives := gives_of_takeToken (ht (k + 1) k.lt_succ_self) hw.isLiteral
    have hu : ({ u with pushed := none } : Source) = u := by rw [← hgives.pushed_eq]
    refine ⟨u, ht, hgives.aliases_eq, .word (u := u) ?_ h⟩
    rintro (_ | m) hm
    · cases hm
    · rw [takeToken_pushed rfl, hu]

/-- A call is read as a simple command. -/
theorem exists_command (h : Supplies k s ws s') (hws : IsCall ws) (haliases : s.aliases = [])
    (hn : k + ws.length + 2 < n) : ∃ line, command n s = .ok (.simple line [] ws [], s') := by
  obtain ⟨w, ws, rfl⟩ := List.exists_cons_of_ne_nil hws.present
  obtain ⟨u, ht, hu, hsupplies⟩ := h.exists_first (hws.constant w List.mem_cons_self)
  obtain ⟨n, rfl⟩ : ∃ m, n = m + 2 := ⟨n - 2, by omega⟩
  have hsimple := hsupplies.simple_eq u.line [] (n := n) (by omega)
    fun _ => hws.assignment
  refine ⟨u.line, ?_⟩
  rw [command, bind_of_eq_ok (ht _ (by omega)), get_bind]
  dsimp only
  rw [hws.reserved w rfl]
  dsimp only
  cases hplain : ShellWord.plain? w with
  | none => exact hsimple
  | some name =>
    have halias := replaceAlias_of_nil name (hu.trans haliases)
    dsimp only
    rw [bind_of_eq_ok halias]
    exact hsimple

/-- A call is read as a pipeline of one command. -/
theorem exists_pipeline (h : Supplies k s ws s') (hws : IsCall ws) (haliases : s.aliases = [])
    (hn : k + ws.length + 4 < n) : ∃ line, pipeline n s = .ok (.simple line [] ws [], s') := by
  obtain ⟨w, ws, rfl⟩ := List.exists_cons_of_ne_nil hws.present
  obtain ⟨u, ht, hu, hsupplies⟩ := h.exists_first (hws.constant w List.mem_cons_self)
  obtain ⟨n, rfl⟩ : ∃ m, n = m + 2 := ⟨n - 2, by omega⟩
  obtain ⟨line, hcommand⟩ := hsupplies.exists_command hws (hu.trans haliases) (n := n) (by omega)
  obtain ⟨t, hpushed, hmark⟩ := h.exists_pushed
  obtain ⟨m, rfl⟩ : ∃ m, n = m + 1 := ⟨n - 1, by omega⟩
  have hend : ({ s' with pushed := some t } : Source) = s' := by rw [← hpushed]
  refine ⟨line, ?_⟩
  rw [pipeline, bind_of_eq_ok (ht _ (by omega)), if_neg (by simp [hws.reserved w rfl]), push_bind,
    stages, bind_of_eq_ok hcommand, bind_of_eq_ok (takeToken_pushed hpushed)]
  obtain rfl | rfl := hmark
  · exact congrArg (fun u => Except.ok (_, u)) hend
  · exact congrArg (fun u => Except.ok (_, u)) hend

end Supplies

/-- Calls that follow are read and joined to the command before them. -/
theorem exists_andOrFrom : ∀ {calls : List (List ShellWord)} {first : Command}
    {before : List (List (List Char))} {n : ℕ} {s : Source}, s.Awaits calls → s.aliases = [] →
      3 * s.rest.length + 10 < n → Calls first before → ∃ c s', andOrFrom first n s = .ok (c, s') ∧
        s'.pushed = some .finish ∧ Calls c (before ++ calls.map (·.map ShellWord.text))
  | [], first, before, n, s, hpushed, _, hn, hfirst => by
    obtain ⟨n, rfl⟩ : ∃ m, n = m + 2 := ⟨n - 2, by omega⟩
    refine ⟨first, { s with pushed := some .finish }, ?_, rfl, by simpa using hfirst⟩
    rw [andOrFrom, bind_of_eq_ok (takeToken_pushed hpushed)]
    rfl
  | ws :: calls, first, before, n, s, ⟨hpushed, hws, rest, hfollow, hmore⟩, haliases, hn,
      hfirst => by
    obtain ⟨n, rfl⟩ : ∃ m, n = m + 2 := ⟨n - 2, by omega⟩
    obtain ⟨s', hsupplies, hawaits, haliases', hlength⟩ :=
      exists_supplies (s := { s with pushed := none }) hfollow hmore rfl rfl (Nat.lt_succ_self _)
    obtain ⟨w, ws, rfl⟩ := List.exists_cons_of_ne_nil hws.present
    obtain ⟨u, ht, hu, hpushed'⟩ := hsupplies.exists_first (hws.constant w List.mem_cons_self)
    dsimp only at hlength hu haliases'
    obtain ⟨line, hpipeline⟩ := hpushed'.exists_pipeline hws (hu.trans haliases) (n := n + 1)
      (by omega)
    have hlater : s'.aliases = [] := haliases'.trans haliases
    rw [List.length_cons] at hlength
    -- The text left is shorter by the words of the call, which pays for the depth of its reading.
    obtain ⟨c, s'', hread, hend, hcalls⟩ :=
      exists_andOrFrom hawaits hlater (n := n + 1) (by omega)
        (hfirst.both (@Calls.simple line _ hws.constant))
    refine ⟨c, s'', ?_, hend, by simpa using hcalls⟩
    have hnext : takeNext (n + 1) { s with pushed := none } = .ok (.word w, u) := by
      rw [takeNext, bind_of_eq_ok (ht _ (by omega))]
      rfl
    rw [andOrFrom, bind_of_eq_ok (takeToken_pushed hpushed)]
    dsimp only
    rw [bind_of_eq_ok hnext, push_bind, bind_of_eq_ok hpipeline]
    exact hread

end Reader

/-- A text that is written as calls, each behind the sign that lets it depend on those before it, is
read as these calls. -/
theorem readsAs_of_follow {text rest : List Char} {ws : List ShellWord}
    {calls : List (List ShellWord)} (h : Follow (' ' :: text) ws rest) (hws : IsCall ws)
    (hcalls : Joins rest calls) : ReadsAs text ((ws :: calls).map (·.map ShellWord.text)) := by
  cases h with
  | nil => exact absurd rfl hws.present
  | @cons _ more _ w ws hstarts hlit h =>
    obtain ⟨u, hu, halike, ht⟩ := Reader.exists_takeToken (s := .ofText text) rfl hstarts hlit
    rw [show (Source.ofText text).rest = text from rfl] at ht
    have hshort := hlit.length_add_le
    obtain ⟨s', hwords, hawaits, haliases, hlength⟩ :=
      Reader.exists_supplies (k := text.length + 1) h hcalls halike.pushed hu (by omega)
    have hsupplies := Reader.Supplies.word ht hwords
    -- The first word is taken to see what is there, put back, and taken by the pipeline.
    obtain ⟨v, hv, hvaliases, hpushed⟩ := hsupplies.exists_first (hws.constant _ List.mem_cons_self)
    rw [hu] at hlength
    obtain ⟨n, hn⟩ : ∃ n, 20 * text.length + 100 = n + 2 := ⟨20 * text.length + 98, rfl⟩
    obtain ⟨line, hpipeline⟩ := hpushed.exists_pipeline hws hvaliases (n := n)
      (by rw [List.length_cons]; omega)
    obtain ⟨c, s'', hread, hend, hc⟩ := Reader.exists_andOrFrom hawaits
      (haliases.trans halike.aliases) (n := n) (by omega)
      (@Calls.simple line _ hws.constant)
    refine ⟨c, { s'' with pushed := some .finish }, ?_, by simp [Source.isFinished], hc⟩
    have hfinish := Reader.takeToken_pushed (n := n) hend
    have handOr :
        Reader.andOr (n + 1) { v with pushed := some (.word w.joined) } = .ok (c, s'') := by
      rw [Reader.andOr, Reader.bind_of_eq_ok hpipeline]
      exact hread
    show Reader.list .line false [] (20 * text.length + 100) (.ofText text) = _
    rw [hn, Reader.list, if_pos rfl, Reader.bind_of_eq_ok (hv _ (by omega))]
    dsimp only
    rw [Reader.push_bind, if_neg (by simp), Reader.bind_of_eq_ok handOr,
      Reader.bind_of_eq_ok hfinish]
    rfl

end SageEditor.Shell

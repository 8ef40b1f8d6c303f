/-
Which histories a server has in a session.

* `Session.run` — a session after any messages, each with the files as they are when it comes;
* `Session.Step` — what a message can do in a session;
* `Session.exists_history` — a session leaves the server that some lawful history leaves.

Design notes: a message either leaves the server as it is or is met as one event.  The request
that begins a session is met in the first phase only and ends it, everything else in the second,
so that the histories of sessions are the lawful ones.
-/
import Mathlib.Data.List.Induction
import SageEditor.Proofs.Server.Tables

namespace SageEditor

/-- The requests that are answered in a session. -/
theorem Method.mem_of_ofName? {name : String} {params : Json.Decoder Request}
    (h : Method.ofName? name = some (.request params)) :
    params ∈ [Params.hover, Params.completion, Params.execute] := by
  rw [Method.ofName?] at h
  split at h
  next m hm =>
    obtain rfl := Option.some.inj h
    obtain ⟨before, after, heq, -⟩ := List.lookup_eq_some_iff.mp hm
    have hmem : (name, Method.request params) ∈ Method.supported := heq ▸ by simp
    simp [Method.supported] at hmem
    rcases hmem with ⟨-, rfl⟩ | ⟨-, rfl⟩ | ⟨-, rfl⟩ <;> simp
  next =>
    split at h
    · cases h
    · split at h <;> cases h

theorem not_startsUp_of_request {params : Json.Decoder Request} {v : Json} {r : Request}
    (hparams : params ∈ [Params.hover, Params.completion, Params.execute])
    (h : params v = .ok r) : ¬ (Event.asked r).StartsUp := by
  simp only [List.mem_cons, List.not_mem_nil, or_false] at hparams
  rcases hparams with rfl | rfl | rfl
  · simp only [Params.hover, Json.bind_eq_ok, pure, Except.pure] at h
    obtain ⟨ms, -, place, -, hr⟩ := h
    cases hr
    exact id
  · simp only [Params.completion, Json.bind_eq_ok, pure, Except.pure] at h
    obtain ⟨ms, -, place, -, hr⟩ := h
    cases hr
    exact id
  · simp only [Params.execute, Json.bind_eq_ok, pure, Except.pure] at h
    obtain ⟨ms, -, command, -, hr⟩ := h
    cases hr
    exact id

theorem Lawful.concat {h : List Moment} {m : Moment} (hlawful : Lawful h) (hne : h ≠ [])
    (hm : ¬ m.event.StartsUp) : Lawful (h ++ [m]) := by
  cases h with
  | nil => exact absurd rfl hne
  | cons m₀ h =>
    refine ⟨hlawful.1, fun m' hm' => ?_⟩
    rcases List.mem_append.mp hm' with hm' | hm'
    · exact hlawful.2 m' hm'
    · exact List.mem_singleton.mp hm' ▸ hm

namespace Session

/-! ### What one message does -/

/-- What a message can do: nothing, or end the session, or be met as an event, which begins the
session or comes after that. -/
inductive Step (launch : Launcher) : Phase → Turn → Phase → Turn → Prop
  | stay {phase t} : Step launch phase t phase t
  | stop {phase phase' t} (h : phase' = .shutDown ∨ phase' = .exited) : Step launch phase t phase' t
  | start {t options} :
      Step launch .uninitialized t .initialized (t.meet launch (.asked (.startUp options)))
  | meet {phase' t e} (he : ¬ e.StartsUp) (h : phase' ≠ .uninitialized) :
      Step launch .initialized t phase' (t.meet launch e)

/-- A request is met if it has a number and its parameters are well-formed. -/
theorem respond_cases (launch : Launcher) (m : Message) (t : Turn)
    (request : Except ResponseError Request) :
    (∃ r, request = .ok r ∧ m.id.isSome = true ∧ respond launch m t request = t.answer launch r) ∨
    ((respond launch m t request).1 = t ∧
      (m.id.isSome && (respond launch m t request).2.isOk) = false) := by
  cases hid : m.id with
  | none => exact .inr (by simp [respond, hid])
  | some id =>
    cases request with
    | error e => exact .inr (by simp [respond, hid, Except.isOk, Except.toBool])
    | ok r => exact .inl ⟨r, rfl, rfl, by simp [respond, hid]⟩

theorem paramsOf_eq_ok {α : Type} {d : Json.Decoder α} {m : Message} {a : α}
    (h : paramsOf d m = .ok a) : ∃ v, d v = .ok a := by
  rw [paramsOf] at h
  split at h
  next => cases h
  next => exact ⟨_, Json.mapError_eq_ok.mp h⟩

/-- A request within a session, after which the session may have ended. -/
theorem step_respond {launch : Launcher} {m : Message} {t : Turn}
    {request : Except ResponseError Request} {phase' : Phase}
    (h : ∀ r, request = .ok r → ¬ (Event.asked r).StartsUp)
    (hphase : phase' = .initialized ∨ phase' = .shutDown) :
    Step launch .initialized t phase' (respond launch m t request).1 := by
  rcases respond_cases launch m t request with ⟨r, hr, -, hrespond⟩ | ⟨hturn, -⟩
  · rw [hrespond]
    exact .meet (e := .asked r) (h r hr) (by rcases hphase with rfl | rfl <;> decide)
  · rw [hturn]
    rcases hphase with rfl | rfl
    · exact .stay
    · exact .stop (.inl rfl)

theorem startsUp_of_startUp {v : Json} {r : Request} (h : Params.startUp v = .ok r) :
    ∃ options, r = .startUp options := by
  simp only [Params.startUp, Json.bind_eq_ok, pure, Except.pure] at h
  obtain ⟨ms, -, options, -, hr⟩ := h
  exact ⟨options, (Except.ok.inj hr).symm⟩

theorem shutdown_of_noParams {m : Message} {r : Request}
    (h : ((noParams m).map fun _ => Request.shutdown) = .ok r) : r = .shutdown := by
  cases hnone : noParams m with
  | error e =>
    rw [hnone] at h
    cases h
  | ok u =>
    rw [hnone] at h
    exact (Except.ok.inj h).symm

/-- The request that begins a session begins it exactly if it is met. -/
theorem step_startUp (launch : Launcher) (m : Message) (t : Turn) :
    let answer := respond launch m t (paramsOf Params.startUp m)
    Step launch .uninitialized t
      (if m.id.isSome && answer.2.isOk then .initialized else .uninitialized) answer.1 := by
  intro answer
  rcases respond_cases launch m t (paramsOf Params.startUp m) with
    ⟨r, hr, hid, hrespond⟩ | ⟨hturn, hbegan⟩
  · obtain ⟨v, hv⟩ := paramsOf_eq_ok hr
    obtain ⟨options, rfl⟩ := startsUp_of_startUp hv
    rw [show answer = t.answer launch (.startUp options) from hrespond, hid]
    exact .start
  · rw [show answer.1 = t from hturn, show (m.id.isSome && answer.2.isOk) = false from hbegan]
    exact .stay

/-- A message is one step, of which the phase decides what it can be. -/
theorem step_dispatch (launch : Launcher) (phase : Phase) (t : Turn) (m : Message) :
    Step launch phase t (dispatch launch phase t m).1 (dispatch launch phase t m).2.1 := by
  rw [dispatch]
  cases hmethod : Method.ofName? m.method with
  | none =>
    -- Whether it is refused or passed over, nothing changes.
    dsimp only
    split <;> exact .stay
  | some method =>
    -- In each method that has a phase of its own, the last case is that of another phase.
    cases method with
    | exit => exact .stop (.inr rfl)
    | cancel => exact .stay
    | unneeded => exact .stay
    | startUp =>
      dsimp only
      split
      next hphase =>
        subst hphase
        exact step_startUp launch m t
      next => exact .stay
    | shutdown =>
      dsimp only
      split
      next hphase =>
        subst hphase
        exact step_respond (fun r hr => shutdown_of_noParams hr ▸ id) (.inr rfl)
      next => exact .stay
    | request params =>
      dsimp only
      split
      next hphase =>
        subst hphase
        refine step_respond (fun r hr => ?_) (.inl rfl)
        obtain ⟨v, hv⟩ := paramsOf_eq_ok hr
        exact not_startsUp_of_request (Method.mem_of_ofName? hmethod) hv
      next => exact .stay
    | notification params =>
      dsimp only
      split
      next n hid hn =>
        by_cases hphase : phase = .initialized
        · subst hphase
          exact .meet (e := .told n) id Phase.noConfusion
        · rw [if_neg hphase]
          exact .stay
      next => exact .stay
    | unanswered params =>
      -- The parameters are checked, which decides only how it is refused.
      dsimp only
      split
      · split <;> exact .stay
      · exact .stay

/-! ### What many messages do -/

/-- A session after a message, which finds the files in some state. -/
def after (launch : Launcher) (s : Session) (m : FileSystem × Message) : Session :=
  (s.handle launch m.1 m.2).1

/-- A session after messages, one after the other. -/
def run (launch : Launcher) (s : Session) (ms : List (FileSystem × Message)) : Session :=
  ms.foldl (after launch) s

theorem step_after (launch : Launcher) (s : Session) (m : FileSystem × Message) :
    ∃ phase t, Step launch s.phase ⟨m.1, s.server, []⟩ phase t ∧
      s.after launch m = ⟨phase, t.server⟩ := by
  rw [after, handle]
  split
  · exact ⟨s.phase, ⟨m.1, s.server, []⟩, .stay, rfl⟩
  · exact ⟨_, _, step_dispatch launch s.phase ⟨m.1, s.server, []⟩ m.2, rfl⟩

/-- A history that a session may have had. -/
structure HasHistory (launch : Launcher) (s₀ : Server) (s : Session) (h : List Moment) : Prop where
  lawful : Lawful h
  server : s.server = s₀.run launch h
  fresh : s.phase = .uninitialized → h = []
  begun : s.phase = .initialized → h ≠ []

/-- A step is at most one event more. -/
theorem HasHistory.step {launch : Launcher} {s₀ : Server} {phase phase' : Phase} {t t' : Turn}
    {h : List Moment} (hstep : Step launch phase t phase' t')
    (hs : HasHistory launch s₀ ⟨phase, t.server⟩ h) :
    ∃ h', HasHistory launch s₀ ⟨phase', t'.server⟩ (h ++ h') ∧
      (h'.map (·.files)).Sublist [t.files] := by
  have hmet (e : Event) :
      (t.meet launch e).server = s₀.run launch (h ++ [⟨t.files, e⟩]) := by
    rw [t.server_meet, Server.run_append, ← hs.server, Server.run_cons, Server.run_nil]
  cases hstep with
  | stay => exact ⟨[], by rwa [List.append_nil], List.nil_sublist _⟩
  | stop hphase =>
    -- the session has ended, so nothing is said about what comes next
    refine ⟨[], ?_, List.nil_sublist _⟩
    rw [List.append_nil]
    rcases hphase with rfl | rfl
    · exact ⟨hs.lawful, hs.server, nofun, nofun⟩
    · exact ⟨hs.lawful, hs.server, nofun, nofun⟩
  | @start _ options =>
    obtain rfl := hs.fresh rfl
    exact ⟨[⟨t.files, .asked (.startUp options)⟩],
      ⟨⟨trivial, nofun⟩, hmet _, nofun, nofun⟩, List.Sublist.refl _⟩
  | @meet _ _ e he hphase =>
    refine ⟨[⟨t.files, e⟩], ⟨hs.lawful.concat (hs.begun rfl) he, hmet e, ?_, ?_⟩,
      List.Sublist.refl _⟩
    · exact fun h => absurd h hphase
    · exact fun _ => List.append_ne_nil_of_right_ne_nil h (List.cons_ne_nil _ _)

/-- **A session leaves the server that a lawful history leaves.** Its events find the files as
the messages do. -/
theorem exists_history (launch : Launcher) (paths : DataPaths) (debug : Bool)
    (ms : List (FileSystem × Message)) :
    ∃ h, HasHistory launch (.start paths debug) ((start paths debug).run launch ms) h ∧
      (h.map (·.files)).Sublist (ms.map (·.1)) := by
  induction ms using List.reverseRecOn with
  | nil => exact ⟨[], ⟨trivial, rfl, fun _ => rfl, nofun⟩, List.Sublist.refl _⟩
  | append_singleton ms m ih =>
    obtain ⟨h, hs, hfiles⟩ := ih
    obtain ⟨phase, t, hstep, hafter⟩ := step_after launch ((start paths debug).run launch ms) m
    obtain ⟨h', hs', hfiles'⟩ := HasHistory.step hstep hs
    refine ⟨h ++ h', ?_, ?_⟩
    · rw [run, List.foldl_append, List.foldl_cons, List.foldl_nil, ← run, hafter]
      exact hs'
    · rw [List.map_append, List.map_append]
      exact hfiles.append hfiles'

end Session

end SageEditor

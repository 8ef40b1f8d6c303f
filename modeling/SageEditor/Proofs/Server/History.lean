/-
What the server is after any number of messages.

* `Event`, `Moment` — what reaches the server, and the files as they are then;
* `Server.run` — the server after a history;
* `Server.next` — the server after an event, without the messages that it sends meanwhile;
* `Turn.server_meet` — a turn leaves the server that `Server.next` tells.

Design notes: what a turn sends to the client and what programs do to the files leaves the server
as it is.  So an event changes the server in one of four ways, by settings, by a reload, by both
or in a document, and what holds of histories is shown for these.
-/
import SageEditor.Server.Session

namespace SageEditor

/-- What reaches the server. -/
inductive Event where
  | asked (r : Request)
  | told (n : Notification)

/-- What a turn does with an event. -/
def Turn.meet (launch : Launcher) (t : Turn) : Event → Turn
  | .asked r => (t.answer launch r).1
  | .told n => t.take n

/-- An event with the files as they are when it comes. -/
structure Moment where
  files : FileSystem
  event : Event

namespace Server

/-- The server after an event that it meets with given files. -/
def after (launch : Launcher) (s : Server) (m : Moment) : Server :=
  (Turn.meet launch ⟨m.files, s, []⟩ m.event).server

/-- The server after a history. The files may change in any way from one event to the next. -/
def run (launch : Launcher) (s : Server) (h : List Moment) : Server :=
  h.foldl (after launch) s

/-- The server with the tables that the files at the configured paths have. -/
def reload (s : Server) (files : FileSystem) : Server :=
  { s with store := ((s.store.setPaths s.configuration.paths).reload files).1 }

/-- The server with settings put into force. -/
def configure (s : Server) (v : Json) : Server :=
  { s with configuration := s.configuration.apply (.ofJson v) }

/-- The server after an event. -/
def next (s : Server) (files : FileSystem) : Event → Server
  | .asked (.startUp (some v)) => s.configure v
  | .asked (.execute command _) => if command = "sage.reloadSymbols" then s.reload files else s
  | .asked _ => s
  | .told .initialized => s.reload files
  | .told (.opened url text) => s.openDocument url text
  | .told (.changed url texts) => texts.foldl (fun s text => s.changeDocument url text) s
  | .told (.closed url) => s.closeDocument url
  | .told (.configured v) => (s.configure v).reload files

end Server

namespace Turn

variable (t : Turn)

/-! ### What leaves the server as it is -/

@[simp] theorem server_send (n : Notice) : (t.send n).server = t.server := rfl

@[simp] theorem server_trace (text : String) : (t.trace text).server = t.server := by
  rw [trace]
  split <;> rfl

@[simp] theorem files_trace (text : String) : (t.trace text).files = t.files := by
  rw [trace]
  split <;> rfl

@[simp] theorem server_traceAt (step : String) (p : Position) :
    (t.traceAt step p).server = t.server := t.server_trace _

@[simp] theorem server_reportSymbols (path : Option Path) (error : Option LoadError) :
    (t.reportSymbols path error).server = t.server := by
  cases error <;> cases path <;> rfl

@[simp] theorem server_reportKeywords (error : Option LoadError) :
    (t.reportKeywords error).server = t.server := by
  cases error <;> rfl

@[simp] theorem server_forwardOutput (r : RunRequest) (o : RunOutput) :
    (t.forwardOutput r o).server = t.server := by
  rw [forwardOutput]
  split <;> split <;> split <;> rfl

@[simp] theorem server_runFile (launch : Launcher) (mode : ExecutionMode) (arguments : List Json) :
    (t.runFile launch mode arguments).1.server = t.server := by
  rw [runFile]
  cases runRequest mode arguments t.server.configuration with
  | error e => rfl
  | ok r =>
    dsimp only
    split
    next => simp
    next => simp

@[simp] theorem server_reload : t.reload.1.server = t.server.reload t.files := by
  simp [reload, Server.reload]

theorem ofName?_eq_reloadSymbols_iff {command : String} :
    Command.ofName? command = some .reloadSymbols ↔ command = "sage.reloadSymbols" := by
  constructor
  · intro found
    have named := List.find?_some found
    exact (of_decide_eq_true named).symm
  · rintro rfl
    decide

theorem server_execute (launch : Launcher) (command : String) (arguments : List Json) :
    (t.execute launch command arguments).1.server =
      if command = "sage.reloadSymbols" then t.server.reload t.files else t.server := by
  by_cases loads : command = "sage.reloadSymbols"
  · rw [if_pos loads, execute, ofName?_eq_reloadSymbols_iff.mpr loads]
    exact t.server_reload
  · have other : Command.ofName? command ≠ some .reloadSymbols :=
      mt ofName?_eq_reloadSymbols_iff.mp loads
    rw [if_neg loads, execute]
    cases found : Command.ofName? command with
    | none => rfl
    | some c =>
      cases c with
      | run mode => exact t.server_runFile launch mode arguments
      | reloadSymbols => exact absurd found other
      | executorCommand => rfl
      | executorMap => rfl

/-- A turn leaves the server that the event, the files and the server before determine. -/
theorem server_meet (launch : Launcher) (e : Event) :
    (t.meet launch e).server = t.server.next t.files e := by
  cases e with
  | asked r =>
    cases r with
    | startUp options =>
      cases options <;> simp [meet, answer, applySettings, Server.next, Server.configure]
    | shutdown => simp [meet, answer, Server.next]
    | hover => simp [meet, answer, Server.next]
    | completion => simp [meet, answer, Server.next]
    | execute => simp [meet, answer, Server.next, server_execute]
  | told n =>
    cases n <;> simp [meet, take, applySettings, Server.next, Server.configure]

end Turn

namespace Server

theorem after_eq (launch : Launcher) (s : Server) (m : Moment) :
    s.after launch m = s.next m.files m.event :=
  Turn.server_meet _ launch m.event

@[simp] theorem run_nil (launch : Launcher) (s : Server) : s.run launch [] = s := rfl

@[simp] theorem run_cons (launch : Launcher) (s : Server) (m : Moment) (h : List Moment) :
    s.run launch (m :: h) = (s.next m.files m.event).run launch h := by
  rw [← after_eq launch s m]
  rfl

theorem run_append (launch : Launcher) (s : Server) (h h' : List Moment) :
    s.run launch (h ++ h') = (s.run launch h).run launch h' :=
  List.foldl_append

end Server

/-! ### Answers -/

/-- What a hover over a document that may be open is answered with. -/
def hoverAnswer (d : Option Document) (data : LanguageData) (p : Position) : Json :=
  ((d.bind fun d => hover d data p).map Hover.toJson).getD .null

/-- What a completion in a document that may be open is answered with. -/
def completionAnswer (d : Option Document) (data : LanguageData) (p : Position)
    (mode : MatchCase) : Json :=
  .array ((completions d data p mode).map Candidate.toJson)

theorem Turn.answer_hover (launch : Launcher) (t : Turn) (url : String) (p : Position) :
    (t.answer launch (.hover url p)).2 =
      .ok (hoverAnswer (t.server.document? url) t.server.store.current p) := by
  simp [answer, hoverAnswer]

theorem Turn.answer_completion (launch : Launcher) (t : Turn) (url : String) (p : Position) :
    (t.answer launch (.completion url p)).2 =
      .ok (completionAnswer (t.server.document? url) t.server.store.current p
        t.server.configuration.matchCase) := by
  simp [answer, completionAnswer]

end SageEditor

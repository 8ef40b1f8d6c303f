/-
Sessions of a client with the server.

* `Session` — a server and how far its session has come;
* `Session.handle` — what a message does, and its `Reply`.

Design notes: a session begins with one request and ends with another one; in between all
requests are answered.  Before and after, requests are refused and notifications have no effect,
and once the server has exited it takes no messages at all.  A message of the wrong form, a
request without a number or a notification with one, is not acted on; the latter is refused.
-/
import SageEditor.Server.Method
import SageEditor.Json.Writer

namespace SageEditor

/-- How far a session has come. -/
inductive Phase where
  | uninitialized
  | initialized
  | shutDown
  | exited
deriving DecidableEq, Repr

structure Session where
  phase : Phase
  server : Server
deriving Repr

/-- The answer to a request: its number, and a value or an error. -/
structure Response where
  id : Json
  result : Except ResponseError Json

/-- What comes back for a message. -/
inductive Reply where
  /-- The answer to a request; nothing for other messages. -/
  | answered (response : Option Response)
  /-- The server is gone. -/
  | exited

def ResponseError.toJson (e : ResponseError) : Json :=
  let data := match e.data with
    | none => []
    | some v => [("data", v)]
  Json.mkObject ([("code", .ofInt e.code), ("message", .string e.message)] ++ data)

def Response.toJson (r : Response) : Json :=
  match r.result with
  | .ok v => Json.mkObject [("id", r.id), ("result", v)]
  | .error e => Json.mkObject [("id", r.id), ("error", e.toJson)]

structure Message where
  method : String
  id : Option Json
  params : Option Json
deriving Repr

def Message.ofJson (v : Json) : Message :=
  ⟨((v.member? "method").bind Json.string?).getD "", v.member? "id", v.member? "params"⟩

namespace ResponseError

def notInitialized : ResponseError := ⟨-32002, "Server not initialized", none⟩

def invalidRequest : ResponseError := ⟨-32600, "Invalid request", none⟩

def methodNotFound (data : Option Json) : ResponseError := ⟨-32601, "Method not found", data⟩

end ResponseError

namespace Session

def start (paths : DataPaths) (debug : Bool) : Session :=
  ⟨.uninitialized, .start paths debug⟩

/-- The reply to a message, which is an answer only if the message has a number. -/
def replyTo (m : Message) (result : Except ResponseError Json) : Reply :=
  .answered (m.id.map fun id => ⟨id, result⟩)

/-- No answer. -/
def silence : Reply := .answered none

/-- The refusal of a request outside of the session. -/
def refusal : Phase → ResponseError
  | .shutDown => .invalidRequest
  | _ => .notInitialized

/-- The refusal of a notification that is sent as a request. -/
def refusalOfNotification : Phase → ResponseError
  | .initialized => .invalidRequest
  | phase => refusal phase

def paramsOf {α : Type} (d : Json.Decoder α) (m : Message) : Except ResponseError α :=
  match m.params with
  | none => .error (.invalidParams "Missing params field")
  | some v => (d v).mapError fun e => .invalidParams e.message

def noParams (m : Message) : Except ResponseError Unit :=
  match m.params with
  | none => .ok ()
  | some v => .error (.invalidParams s!"Unexpected params: {v.compact}")

/-- Answers a request whose parameters have been read. -/
def respond (launch : Launcher) (m : Message) (t : Turn)
    (request : Except ResponseError Request) : Turn × Except ResponseError Json :=
  match m.id, request with
  | none, _ => (t, .ok .null)
  | some _, .error e => (t, .error e)
  | some _, .ok r => t.answer launch r

/-- What a message does in a session that has not ended; the phase, the turn and the reply. -/
def dispatch (launch : Launcher) (phase : Phase) (t : Turn) (m : Message) :
    Phase × Turn × Reply :=
  match Method.ofName? m.method with
  | none =>
    -- These methods are optional, so that not even a request is refused.
    if m.method.startsWith "$/" then (phase, t, silence)
    else (phase, t, replyTo m (.error (.methodNotFound (some (.string m.method)))))
  | some .exit => (.exited, t, silence)
  | some .cancel => (phase, t, replyTo m (.error .invalidRequest))
  | some .unneeded => (phase, t, replyTo m (.error (refusalOfNotification phase)))
  | some .startUp =>
    if phase = .uninitialized then
      let (t, result) := respond launch m t (paramsOf Params.startUp m)
      -- Without a number it is no request, and the session does not begin.
      let began := m.id.isSome && result.isOk
      (if began then .initialized else .uninitialized, t, replyTo m result)
    else (phase, t, replyTo m (.error .invalidRequest))
  | some .shutdown =>
    if phase = .initialized then
      let (t, result) := respond launch m t ((noParams m).map fun _ => .shutdown)
      (.shutDown, t, replyTo m result)
    else (phase, t, replyTo m (.error (refusal phase)))
  | some (.request params) =>
    if phase = .initialized then
      let (t, result) := respond launch m t (paramsOf params m)
      (phase, t, replyTo m result)
    else (phase, t, replyTo m (.error (refusal phase)))
  | some (.unanswered params) =>
    if phase = .initialized then
      match paramsOf params m with
      | .error e => (phase, t, replyTo m (.error e))
      | .ok () => (phase, t, replyTo m (.error (.methodNotFound none)))
    else (phase, t, replyTo m (.error (refusal phase)))
  | some (.notification params) =>
    match m.id, paramsOf params m with
    | none, .ok n => (phase, if phase = .initialized then t.take n else t, silence)
    | _, _ => (phase, t, replyTo m (.error (refusalOfNotification phase)))

/-- What a message does: the session and the files afterwards, what is sent to the client
meanwhile, and the reply. -/
def handle (launch : Launcher) (s : Session) (files : FileSystem) (m : Message) :
    Session × FileSystem × List Notice × Reply :=
  if s.phase = .exited then (s, files, [], .exited)
  else
    let (phase, t, reply) := dispatch launch s.phase ⟨files, s.server, []⟩ m
    (⟨phase, t.server⟩, t.files, t.sent, reply)

end Session

end SageEditor

/-
The language server.

* `Server` — the open documents, the tables in use and the configuration;
* `Request`, `Notification` — what a client can ask for and tell;
* `Turn` — a server with the files around it and the messages it has sent in reply;
* `Turn.answer`, `Turn.take` — what a request and a notification do.

Design notes: the tables are loaded again when the session begins, when the configuration changes
and on command, always from the paths that the configuration holds at that moment.  Every load is
reported to the client.  A document is known by its URL as text.
-/
import SageEditor.Assistance
import SageEditor.Server.Capabilities

namespace SageEditor

inductive Severity where
  | error
  | warning
  | info
  | log
deriving DecidableEq, Repr

/-- The number by which clients know a severity. -/
def Severity.code : Severity → Nat
  | error => 1
  | warning => 2
  | info => 3
  | log => 4

/-- A message from the server to the client. -/
inductive Notice where
  /-- For the log. -/
  | log (severity : Severity) (text : String)
  /-- To be shown. -/
  | popUp (severity : Severity) (text : String)
deriving DecidableEq, Repr

def Notice.toJson (n : Notice) : Json :=
  let (method, severity, text) := match n with
    | log severity text => ("window/logMessage", severity, text)
    | popUp severity text => ("window/showMessage", severity, text)
  Json.mkObject [
    ("method", .string method),
    ("params", Json.mkObject [("type", .ofNat severity.code), ("message", .string text)])]

structure Server where
  documents : List (String × Document)
  store : DataStore
  configuration : Configuration
  /-- Whether the client is told about every step. -/
  debug : Bool
deriving Repr, Inhabited

namespace Server

/-- A new server, with empty tables. -/
def start (paths : DataPaths) (debug : Bool) : Server :=
  ⟨[], .ofData .empty, .start paths, debug⟩

def document? (s : Server) (url : String) : Option Document :=
  s.documents.lookup url

/-- Opens a document, or replaces the one that is open. -/
def openDocument (s : Server) (url text : String) : Server :=
  { s with documents := (url, ⟨text⟩) :: s.documents.filter (·.1 ≠ url) }

/-- Changes the text of a document that is open. -/
def changeDocument (s : Server) (url text : String) : Server :=
  { s with documents := s.documents.map fun d => if d.1 = url then (url, ⟨text⟩) else d }

def closeDocument (s : Server) (url : String) : Server :=
  { s with documents := s.documents.filter (·.1 ≠ url) }

end Server

inductive Request where
  | startUp (options : Option Json)
  | shutdown
  | hover (url : String) (p : Position)
  | completion (url : String) (p : Position)
  | execute (command : String) (arguments : List Json)
deriving Repr

inductive Notification where
  | initialized
  | opened (url text : String)
  /-- The new texts of a document, of which the last one counts. -/
  | changed (url : String) (texts : List String)
  | closed (url : String)
  | configured (settings : Json)
deriving Repr

/-- A server while it handles a message. -/
structure Turn where
  files : FileSystem
  server : Server
  sent : List Notice
deriving Repr

namespace Turn

/-! ### Messages to the client -/

def send (t : Turn) (n : Notice) : Turn := { t with sent := t.sent ++ [n] }

/-- Tells the client about a step, if it wants to know. -/
def trace (t : Turn) (text : String) : Turn :=
  if t.server.debug then t.send (.log .info s!"[DEBUG] {text}") else t

def traceAt (t : Turn) (step : String) (p : Position) : Turn :=
  t.trace s!"{step} at Position \x7b line: {p.line}, character: {p.character} \x7d"

/-! ### Loading -/

/-- What the client is told about symbols that could not be loaded. -/
def symbolsFailed : String :=
  "Failed to load SageMath symbols. Please check the file format and path."

def reportSymbols (t : Turn) (path : Option Path) (error : Option LoadError) : Turn :=
  match error, path with
  | some e, _ =>
    (t.send (.log .error s!"{symbolsFailed} ({e.message})")).send (.popUp .error symbolsFailed)
  | none, some _ => t.send (.log .info "SageMath symbols loaded successfully.")
  | none, none => t.send (.log .warning "No SageMath symbol file configured")

/-- Tells the client if loading the keywords went wrong. -/
def reportKeywords (t : Turn) (error : Option LoadError) : Turn :=
  match error with
  | some e => t.send (.popUp .warning s!"Failed to load SageMath keywords: {e.message}")
  | none => t

/-- Loads the tables from the configured paths and tells the client how it went. -/
def reload (t : Turn) : Turn × LoadReport :=
  let paths := t.server.configuration.paths
  let (store, report) := (t.server.store.setPaths paths).reload t.files
  let t := { t with server := { t.server with store } }
  ((t.reportSymbols paths.symbols report.symbols).reportKeywords report.keywords, report)

def applySettings (t : Turn) (v : Json) : Turn :=
  { t with server := { t.server with
      configuration := t.server.configuration.apply (.ofJson v) } }

/-! ### Running files -/

/-- Passes on what a run wrote, and tells the client if it failed. -/
def forwardOutput (t : Turn) (r : RunRequest) (o : RunOutput) : Turn :=
  let t := if o.stdout.isEmpty then t else t.send (.log .log o.stdout)
  let t := if o.stderr.isEmpty then t else t.send (.log .warning o.stderr)
  if o.success then t
  else
    let code := (o.code.map toString).getD "signal"
    t.send (.popUp .error s!"Sage Run: {r.file.display} exited with {code}")

/-- Runs the file that the arguments name. Where they name none, the client is told so. -/
def runFile (launch : Launcher) (t : Turn) (mode : ExecutionMode) (arguments : List Json) :
    Turn × Except ResponseError Json :=
  match runRequest mode arguments t.server.configuration with
  -- That there is nothing to run is no failure of the command.
  | .error e => (t.send (.popUp .info e.message), .ok .null)
  | .ok r =>
    let t := t.trace s!"Running: {r.shellLine}"
    match r.execute launch t.files with
    | (files, .ok output) =>
      (({ t with files }).forwardOutput r output, .ok (output.toJson r))
    | (files, .error e) =>
      (({ t with files }).send (.popUp .error e.message), .error (.ofRun e))

/-! ### Messages from the client -/

/-- What loading on command answers. -/
def reloadAnswer (report : LoadReport) (data : LanguageData) : Json :=
  Json.mkObject [
    ("ok", .bool report.isOk),
    ("classes", .ofNat data.catalog.classes.length),
    ("functions", .ofNat data.catalog.functions.length),
    ("constants", .ofNat data.catalog.constants.length),
    ("keywords", .ofNat data.keywords.length)]

def execute (launch : Launcher) (t : Turn) (command : String) (arguments : List Json) :
    Turn × Except ResponseError Json :=
  match Command.ofName? command with
  | some (.run mode) => t.runFile launch mode arguments
  | some .reloadSymbols =>
    let (t, report) := t.reload
    (t, .ok (reloadAnswer report t.server.store.current))
  | some .executorCommand => (t, .ok (executorCommandValue t.server.configuration))
  | some .executorMap => (t, .ok (executorMapValue arguments t.server.configuration))
  | none => (t, .error (.invalidParams s!"Unknown command: {command}"))

def answer (launch : Launcher) (t : Turn) : Request → Turn × Except ResponseError Json
  | .startUp options =>
    let t := t.trace "Initializing SageMath LSP server"
    ((options.map t.applySettings).getD t, .ok initializeResult)
  | .shutdown => (t.trace "Shutting down server", .ok .null)
  | .hover url p =>
    let t := t.traceAt "Hover request" p
    let found := (t.server.document? url).bind fun d => SageEditor.hover d t.server.store.current p
    (t, .ok ((found.map Hover.toJson).getD .null))
  | .completion url p =>
    let t := t.traceAt "Completion request" p
    let items := completions (t.server.document? url) t.server.store.current p
      t.server.configuration.matchCase
    (t, .ok (.array (items.map Candidate.toJson)))
  | .execute command arguments =>
    (t.trace s!"Execute command: {command}").execute launch command arguments

def take (t : Turn) : Notification → Turn
  | .initialized =>
    (t.reload.1.trace "Server initialized successfully").send
      (.log .info "SageMath LSP server initialized")
  | .opened url text =>
    ({ t with server := t.server.openDocument url text }).trace s!"Document opened: {url}"
  | .changed url texts =>
    let t := t.trace s!"Document changed: {url}"
    { t with server := texts.foldl (fun s text => s.changeDocument url text) t.server }
  | .closed url =>
    let t := t.trace s!"Document closed: {url}"
    { t with server := t.server.closeDocument url }
  | .configured settings =>
    ((t.trace "Configuration changed").applySettings settings).reload.1

end Turn

end SageEditor

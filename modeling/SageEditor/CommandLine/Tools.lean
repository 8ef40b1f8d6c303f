/-
The command line tools.

* `Tool` — what the tools are asked to do;
* `Tool.ofArguments?` — the tool of a command line;
* `Tool.perform` — its effect on the files, and what it prints.

Design notes: an error is printed after the word `Error`, with its cause after a colon.  The
texts of most errors already end in their cause, which is then printed twice.
-/
import SageEditor.CommandLine.Arguments
import SageEditor.Highlight.Files
import SageEditor.Listing
import SageEditor.Run.Request
import SageEditor.Server.Capabilities
import SageEditor.Settings

namespace SageEditor

/-- What a program gives back: its exit code and what it prints. -/
structure ExitReport where
  code : Nat
  stdout : String
  stderr : String
deriving DecidableEq, Repr

namespace ExitReport

def success (stdout : String) : ExitReport := ⟨0, stdout, ""⟩

def failure (message : String) : ExitReport := ⟨1, "", message ++ "\n"⟩

/-- The report of an error, with its causes. -/
def error (message : String) : ExitReport := failure s!"Error: {message}"

end ExitReport

/-! ### Errors with their causes -/

def withCause (message cause : String) : String := s!"{message}: {cause}"

def LoadError.chain (e : LoadError) : String := withCause e.message e.fault.message

def Highlight.GrammarError.chain : Highlight.GrammarError → String
  | .catalog e => e.chain
  | e@(.file _ cause) => withCause e.message cause.message
  | e@(.template (.invalidGrammar cause)) => withCause e.message cause.message
  | e => e.message

def RunError.chain : RunError → String
  | e@(.spawn _ cause) => withCause e.message cause.message
  | e@(.cleanup _ cause) => withCause e.message cause.message
  | e => e.message

/-! ### The tools -/

/-- What the tools are asked to do. -/
inductive Tool where
  | version
  | injectGrammar (symbols template output : Path)
  | run (file : Path) (mode : ExecutionMode) (interpreter : String)
  | executorCommand (mode : ExecutionMode)
  | executorMap (settings : Path) (mode : ExecutionMode)
  | lookup (name : String) (symbols : Path) (json : Bool)
  | complete (start : String) (paths : DataPaths) (mode : MatchCase) (json : Bool)
deriving Repr

namespace Tool

open CommandLine (Arguments Grammar)

/-- Where the symbol file is if no other path is given. -/
def defaultSymbols : String := "data/sagemath_symbols.json"

def defaultTemplate : String := "syntaxes/sagemath.tmLanguage.template.json"

def defaultOutput : String := "syntaxes/sagemath.tmLanguage.json"

/-- The option that every command takes: how much is logged. -/
def logLevel : String × CommandLine.ValueKind := ("log-level", .text)

/-- The arguments of each subcommand. -/
def grammar? : String → Option Grammar
  | "inject-grammar" =>
    some ⟨[], [logLevel, ("symbols", .path), ("template", .path), ("output", .path)], []⟩
  | "run" => some ⟨["clean"], [logLevel, ("interpreter", .text)], [.path]⟩
  | "executor-command" => some ⟨[], [logLevel, ("mode", .text)], []⟩
  | "executor-map" => some ⟨[], [logLevel, ("settings", .path), ("mode", .text)], []⟩
  | "lookup" => some ⟨["json"], [logLevel, ("symbols", .path)], [.text]⟩
  | "complete" =>
    some ⟨["json", "ignore-case"], [logLevel, ("symbols", .path), ("keywords", .path)], [.text]⟩
  | _ => none

def path (a : Arguments) (name default : String) : Path :=
  .ofString ((a.option? name).getD default)

/-- The tool of a subcommand and its arguments; nothing if one is missing. -/
def ofSubcommand? (name : String) (a : Arguments) : Option Tool :=
  let mode := ExecutionMode.ofSetting (a.option? "mode")
  match name, a.operands with
  | "inject-grammar", _ =>
    some (injectGrammar (path a "symbols" defaultSymbols) (path a "template" defaultTemplate)
      (path a "output" defaultOutput))
  | "run", [file] =>
    some (run (.ofString file) (if a.hasFlag "clean" then .runAndClean else .runOnly)
      ((a.option? "interpreter").getD defaultInterpreter))
  | "executor-command", _ => some (executorCommand mode)
  | "executor-map", _ => (a.option? "settings").map fun p => executorMap (.ofString p) mode
  | "lookup", [name] => some (lookup name (path a "symbols" defaultSymbols) (a.hasFlag "json"))
  | "complete", operands =>
    some (complete (operands.headD "")
      ⟨some (path a "symbols" defaultSymbols), (a.option? "keywords").map .ofString⟩
      (if a.hasFlag "ignore-case" then .insensitive else .sensitive) (a.hasFlag "json"))
  | _, _ => none

/-- The tool of a command line; nothing if it is refused. The log level may also stand before
the subcommand. -/
def ofArgumentsFrom? (logged : Bool) : List String → Option Tool
  | [] => none
  | arg :: rest =>
    if CommandLine.isOperand arg then do
      ofSubcommand? arg (← (← grammar? arg).read rest)
    else if arg = "--version" || arg.startsWith "-V" then some version
    else
      match CommandLine.longOption? arg, rest with
      | some ("log-level", some _), rest => if logged then none else ofArgumentsFrom? true rest
      | some ("log-level", none), value :: rest =>
        if logged || !CommandLine.isOperand value then none else ofArgumentsFrom? true rest
      | _, _ => none

/-- The tool of a command line; nothing if it is refused. -/
def ofArguments? (args : List String) : Option Tool :=
  ofArgumentsFrom? false args

def printed (v : Json) : ExitReport := .success (v.pretty ++ "\n")

/-- The exit code for how a run ended. -/
def exitCode : Option Int → Nat
  | some (.ofNat n) => if n < 256 then n else 1
  | _ => 1

def showEntry (name : String) (json : Bool) : Option Entry → ExitReport
  | none => .failure s!"{name}: not found"
  | some e =>
    if json then printed e.toJson
    else
      let doc := e.doc.getD ""
      .success s!"{e.name} ({e.kind.label})\n\n{doc}\n"

/-- What a tool does to the files, and what it prints. -/
def perform (launch : Launcher) (fs : FileSystem) : Tool → FileSystem × ExitReport
  | version => (fs, .success s!"sage-tools {SageEditor.version}\n")
  | injectGrammar symbols template output =>
    match Highlight.injectFiles fs symbols template output with
    | (fs, .error e) => (fs, .error e.chain)
    | (fs, .ok i) =>
      (fs, .success
        s!"Updated {output.display} successfully! ({i.total} placeholders replaced)\n")
  | run file mode interpreter =>
    match RunRequest.ofFile file mode interpreter with
    | .error e => (fs, .error e.chain)
    | .ok r =>
      match r.execute launch fs with
      | (fs, .error e) => (fs, .error e.chain)
      | (fs, .ok o) => (fs, ⟨exitCode o.code, o.stdout, o.stderr⟩)
  | executorCommand mode => (fs, .success (SageEditor.executorCommand mode ++ "\n"))
  | executorMap settings mode =>
    match updateSettings fs settings mode with
    | (fs, .error e) => (fs, .error e.message)
    | (fs, .ok _) =>
      let command := SageEditor.executorCommand mode
      (fs, .success s!"Set .sage executor to \x60{command}\x60 in {settings.display}\n")
  | lookup name symbols json =>
    let (data, _) := LanguageData.load fs ⟨some symbols, none⟩
    (fs, showEntry name json (Entry.lookup data name))
  | complete start paths mode json =>
    let (data, _) := LanguageData.load fs paths
    let entries := Entry.complete data start mode
    (fs, if json then printed (.array (entries.map Entry.toJson))
      else .success (Entry.lines entries))

end Tool

end SageEditor

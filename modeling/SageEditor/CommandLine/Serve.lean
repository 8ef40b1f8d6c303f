/-
The command line of the server.

* `ServeOptions` — what the server is started with;
* `ServeOptions.ofArguments` — the options of a command line;
* `serve` — what the server answers to a list of messages.
-/
import SageEditor.CommandLine.Tools
import SageEditor.Server.Session

namespace SageEditor

structure ServeOptions where
  paths : DataPaths
  debug : Bool
deriving DecidableEq, Repr

/-- Why the server is not started. -/
inductive ServeRefusal where
  /-- The arguments are malformed. -/
  | usage
  /-- The only way to talk to the server is not asked for. -/
  | noChannel
deriving DecidableEq, Repr

namespace ServeOptions

def grammar : CommandLine.Grammar :=
  ⟨["stdio", "debug"], [("symbols", .path), ("keywords", .path)], []⟩

def ofArguments (args : List String) : Except ServeRefusal ServeOptions :=
  match grammar.read args with
  | none => .error .usage
  | some a =>
    if a.hasFlag "stdio" then
      .ok ⟨⟨(a.option? "symbols").map .ofString, (a.option? "keywords").map .ofString⟩,
        a.hasFlag "debug"⟩
    else .error .noChannel

end ServeOptions

/-- The report of a server that is not told how to talk. -/
def noChannelReport : ExitReport := .error "--stdio flag is required"

/-- The answers to messages, and the files afterwards. -/
def serve (launch : Launcher) (s : Session) (files : FileSystem) :
    List Message → List Response × FileSystem
  | [] => ([], files)
  | m :: rest =>
    let (s, files, _, reply) := s.handle launch files m
    let (responses, files) := serve launch s files rest
    match reply with
    | .answered (some r) => (r :: responses, files)
    | _ => (responses, files)

end SageEditor

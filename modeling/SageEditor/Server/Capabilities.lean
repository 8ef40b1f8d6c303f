/-
What the server tells a client about itself.

* `serverCapabilities` — the requests that it answers;
* `initializeResult` — the answer to the request that begins a session.
-/
import SageEditor.Server.Command

namespace SageEditor

/-- The requests that the server answers: completion, also after an underscore, hovers and
commands. Documents are sent as a whole. -/
def serverCapabilities : Json :=
  Json.mkObject [
    ("textDocumentSync", .ofNat 1),
    ("completionProvider", Json.mkObject [("triggerCharacters", .array [.string "_"])]),
    ("hoverProvider", .bool true),
    ("executeCommandProvider",
      Json.mkObject [("commands", .array (Command.all.map fun c => .string c.name))])]

def version : String := "0.1.0"

/-- The capabilities together with the name of the server. -/
def initializeResult : Json :=
  Json.mkObject [
    ("capabilities", serverCapabilities),
    ("serverInfo",
      Json.mkObject [("name", .string "sagemath-lsp"), ("version", .string version)])]

end SageEditor

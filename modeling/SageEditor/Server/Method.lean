/-
The methods of the protocol.

* `Method` — what a message with a method's name is;
* `Method.ofName?` — the method of a name, with the shape of its parameters.

Design notes: the parameters of requests for a position are one object in which the members of
several records stand side by side; these are read one record after the other, and the object
cannot be given as a list.  Methods that belong to the protocol but not to this server are known,
so that their parameters are checked before they are refused.
-/
import SageEditor.Server.ClientCapabilities
import SageEditor.Server.State

namespace SageEditor

namespace Params

open Json (Decoder Mismatch Object)
open Json.Decode
open Shape

/-! ### Requests that the server answers -/

/-- A folder that the client works in. -/
def folder : Decoder Unit :=
  shape "WorkspaceFolder" [required "uri" url, required "name" text]

/-- The client by its name. -/
def clientInfo : Decoder Unit :=
  shape "ClientInfo" [required "name" text, optional "version" text]

def startUp : Decoder Request := fun v => do
  let ms ← record "InitializeParams"
    [optional "processId" natural32, optional "rootPath" text, defaulted "rootUri" url,
      optional "initializationOptions" any, required "capabilities" clientCapabilities,
      defaulted "trace" (variant ["off", "messages", "verbose"]),
      optional "workspaceFolders" (list folder), optional "clientInfo" clientInfo,
      optional "locale" text] v
  return .startUp (← field? ms "initializationOptions" any)

def hover : Decoder Request := fun v => do
  let (url, p) ← place (← sideBySide "HoverParams" [] [placeFields, workFields] v)
  return .hover url p

/-- How a completion was asked for. -/
def completionContext : Decoder Unit :=
  shape "CompletionContext"
    [required "triggerKind" integer32, optional "triggerCharacter" text]

def completion : Decoder Request := fun v => do
  let ms ← sideBySide "CompletionParams" [optional "context" completionContext]
    [placeFields, workFields, partialFields] v
  let (url, p) ← place ms
  return .completion url p

def execute : Decoder Request := fun v => do
  let ms ← sideBySide "ExecuteCommandParams"
    [required "command" text, ⟨"arguments", .defaulted, check (list any)⟩] [workFields] v
  let arguments := match ms.get? "arguments" with
    | some (.array xs) => xs
    | _ => []
  return .execute (← field ms "command" text) arguments

/-! ### Requests that it does not answer -/

/-- A request about a position. -/
def aboutPosition (name : String) (records : List (List Field)) : Decoder Unit :=
  check (sideBySide name [] (placeFields :: records))

/-- A request about a document, with more members of its own. -/
def aboutDocument (name : String) (more : List Field) (records : List (List Field)) :
    Decoder Unit :=
  check (sideBySide name (required "textDocument" document :: more) records)

/-- A request that goes from a name to a place that it stands for. -/
def goTo : Decoder Unit := aboutPosition "GotoDefinitionParams" [workFields, partialFields]

def references : Decoder Unit :=
  check (sideBySide "ReferenceParams"
    [required "context" (shape "ReferenceContext" [required "includeDeclaration" flag])]
    [placeFields, workFields, partialFields])

def willSave : Decoder Unit :=
  shape "WillSaveTextDocumentParams"
    [required "textDocument" document, required "reason" integer32]

/-- An element of a hierarchy, which has tags of a shape of their own. -/
def hierarchyItem (name : String) (tags : Decoder Unit) : Decoder Unit :=
  shape name
    [required "name" text, required "kind" integer32, optional "tags" tags,
      optional "detail" text, required "uri" url, required "range" range,
      required "selectionRange" range, optional "data" any]

def aboutItem (name : String) (item : Decoder Unit) : Decoder Unit :=
  check (sideBySide name [required "item" item] [workFields, partialFields])

def callItem : Decoder Unit := hierarchyItem "CallHierarchyItem" (check (list integer32))

def typeItem : Decoder Unit := hierarchyItem "TypeHierarchyItem" (check integer32)

def documentLink : Decoder Unit :=
  shape "DocumentLink"
    [required "range" range, optional "target" url, optional "tooltip" text,
      optional "data" any]

def codeLens : Decoder Unit :=
  shape "CodeLens" [required "range" range, optional "command" command, optional "data" any]

def inlineValueContext : Decoder Unit :=
  shape "InlineValueContext"
    [required "frameId" integer32, required "stoppedLocation" range]

/-- A part of a label that is shown between the words of a document. -/
def labelPart : Decoder Unit :=
  shape "InlayHintLabelPart"
    [required "value" text, optional "tooltip" (textOrMarkup "InlayHintLabelPartTooltip"),
      optional "location" location, optional "command" command]

def inlayHint : Decoder Unit :=
  shape "InlayHint"
    [required "position" position,
      required "label" (anyOf "InlayHintLabel" [check text, check (list labelPart)]),
      optional "kind" integer32, optional "textEdits" (list textEdit),
      optional "tooltip" (textOrMarkup "InlayHintTooltip"), optional "paddingLeft" flag,
      optional "paddingRight" flag, optional "data" any]

/-- An edit that either inserts a text or replaces one. -/
def insertReplaceEdit : Decoder Unit :=
  shape "InsertReplaceEdit"
    [required "newText" text, required "insert" range, required "replace" range]

def completionItem : Decoder Unit :=
  shape "CompletionItem"
    [required "label" text,
      optional "labelDetails" (shape "CompletionItemLabelDetails"
        [optional "detail" text, optional "description" text]),
      optional "kind" integer32, optional "detail" text,
      optional "documentation" (textOrMarkup "Documentation"), optional "deprecated" flag,
      optional "preselect" flag, optional "sortText" text, optional "filterText" text,
      optional "insertText" text, optional "insertTextFormat" integer32,
      optional "insertTextMode" integer32,
      optional "textEdit" (anyOf "CompletionTextEdit" [textEdit, insertReplaceEdit]),
      optional "additionalTextEdits" (list textEdit), optional "command" command,
      optional "commitCharacters" (list text), optional "data" any,
      optional "tags" (list integer32)]

/-- What was reported about a document before. -/
def previousResult : Decoder Unit :=
  shape "PreviousResultId" [required "uri" url, required "value" text]

/-- A parameter of a function, by its text or by its place in the text of the function. -/
def parameterInformation : Decoder Unit :=
  shape "ParameterInformation"
    [required "label" (anyOf "ParameterLabel"
        [check text, fun v => do
          let offsets ← list natural32 v
          if offsets.length = 2 then .ok () else differs v "an array of length 2"]),
      optional "documentation" (textOrMarkup "Documentation")]

def signatureInformation : Decoder Unit :=
  shape "SignatureInformation"
    [required "label" text, optional "documentation" (textOrMarkup "Documentation"),
      optional "parameters" (list parameterInformation), optional "activeParameter" natural32]

def signatureContext : Decoder Unit :=
  shape "SignatureHelpContext"
    [required "triggerKind" integer32, optional "triggerCharacter" text,
      required "isRetrigger" flag,
      optional "activeSignatureHelp" (shape "SignatureHelp"
        [required "signatures" (list signatureInformation),
          optional "activeSignature" natural32, optional "activeParameter" natural32])]

def signatureHelp : Decoder Unit :=
  check (sideBySide "SignatureHelpParams" [optional "context" signatureContext]
    [placeFields, workFields])

def codeActionContext : Decoder Unit :=
  shape "CodeActionContext"
    [required "diagnostics" (list diagnostic), optional "only" (list text),
      optional "triggerKind" integer32]

def codeAction : Decoder Unit :=
  shape "CodeAction"
    [required "title" text, optional "kind" text, optional "diagnostics" (list diagnostic),
      optional "edit" workspaceEdit, optional "command" command, optional "isPreferred" flag,
      optional "disabled" (shape "CodeActionDisabled" [required "reason" text]),
      optional "data" any]

def color : Decoder Unit :=
  shape "Color"
    [required "red" decimal32, required "green" decimal32, required "blue" decimal32,
      required "alpha" decimal32]

/-- How a document is to be laid out. All members beyond the known ones have simple values. -/
def formattingOptions : Decoder Unit := fun v => do
  let known : List Field :=
    [required "tabSize" natural32, required "insertSpaces" flag,
      optional "trimTrailingWhitespace" flag, optional "insertFinalNewline" flag,
      optional "trimFinalNewlines" flag]
  let ms ← sideBySide "FormattingOptions" known [] v
  let others := ms.filter fun m => !known.any (·.name = m.1)
  dictionary "a map" (fun _ => .ok ())
    (anyOf "FormattingProperty" [check flag, check integer32, check text]) (.object others)

def formattingOptionsField : Field := required "options" formattingOptions

def onTypeFormatting : Decoder Unit :=
  check (sideBySide "DocumentOnTypeFormattingParams"
    [required "ch" text, formattingOptionsField] [placeFields])

def rename : Decoder Unit :=
  check (sideBySide "RenameParams" [required "newName" text] [placeFields, workFields])

def prepareRename : Decoder Unit :=
  shape "TextDocumentPositionParams"
    [required "textDocument" document, required "position" position]

def symbolQuery : Decoder Unit :=
  check (sideBySide "WorkspaceSymbolParams" [required "query" text]
    [partialFields, workFields])

def workspaceSymbol : Decoder Unit :=
  shape "WorkspaceSymbol"
    [required "name" text, required "kind" integer32, optional "tags" (list integer32),
      optional "containerName" text,
      required "location" (anyOf "OneOf"
        [location, shape "WorkspaceLocation" [required "uri" url]]),
      optional "data" any]

/-- An operation on several files, each of which is given by names. -/
def aboutFiles (name file : String) (names : List String) : Decoder Unit :=
  shape name [required "files" (list (shape file (names.map fun n => required n text)))]

/-! ### Notifications -/

def initialized : Decoder Notification := fun v => do
  let _ ← record "InitializedParams" [] v
  return .initialized

def opened : Decoder Notification := fun v => do
  let item : Decoder (String × String) := fun v => do
    let ms ← record "TextDocumentItem"
      [required "uri" url, required "languageId" text, required "version" integer32,
        required "text" text] v
    return (← field ms "uri" url, ← field ms "text" text)
  let ms ← record "DidOpenTextDocumentParams" [required "textDocument" item] v
  let (url, content) ← field ms "textDocument" item
  return .opened url content

/-- A change of a document, which gives its whole text. -/
def change : Decoder String := fun v => do
  let ms ← record "TextDocumentContentChangeEvent"
    [optional "range" range, optional "rangeLength" natural32, required "text" text] v
  field ms "text" text

def changed : Decoder Notification := fun v => do
  let versioned : Decoder String := fun v => do
    let ms ← record "VersionedTextDocumentIdentifier"
      [required "uri" url, required "version" integer32] v
    field ms "uri" url
  let ms ← record "DidChangeTextDocumentParams"
    [required "textDocument" versioned, required "contentChanges" (list change)] v
  return .changed (← field ms "textDocument" versioned) (← field ms "contentChanges" (list change))

def closed : Decoder Notification := fun v => do
  let ms ← record "DidCloseTextDocumentParams" [required "textDocument" document] v
  return .closed (← field ms "textDocument" document)

def configured : Decoder Notification := fun v => do
  let ms ← record "DidChangeConfigurationParams" [required "settings" any] v
  return .configured (← field ms "settings" any)

end Params

/-- What a message is, by its method. -/
inductive Method where
  /-- The end of the session. -/
  | exit
  /-- The end of a request that is still worked on. -/
  | cancel
  /-- The request that begins the session. -/
  | startUp
  /-- The request, without parameters, that ends the work of the server. -/
  | shutdown
  | request (params : Json.Decoder Request)
  | notification (params : Json.Decoder Notification)
  /-- A request that this server does not answer. -/
  | unanswered (params : Json.Decoder Unit)
  /-- A notification that this server does not need. -/
  | unneeded

namespace Method

/-- The methods that the server answers or makes use of. -/
def supported : List (String × Method) := [
  ("initialize", startUp),
  ("shutdown", shutdown),
  ("exit", exit),
  ("$/cancelRequest", cancel),
  ("textDocument/hover", request Params.hover),
  ("textDocument/completion", request Params.completion),
  ("workspace/executeCommand", request Params.execute),
  ("initialized", notification Params.initialized),
  ("textDocument/didOpen", notification Params.opened),
  ("textDocument/didChange", notification Params.changed),
  ("textDocument/didClose", notification Params.closed),
  ("workspace/didChangeConfiguration", notification Params.configured)]

/-- The notifications that the server does not need. -/
def unneededNames : List String := [
  "textDocument/willSave", "textDocument/didSave", "workspace/didChangeWorkspaceFolders",
  "workspace/didCreateFiles", "workspace/didRenameFiles", "workspace/didDeleteFiles",
  "workspace/didChangeWatchedFiles"]

/-- The requests that the server does not answer, with the shape of their parameters. -/
def unansweredParams : List (String × Json.Decoder Unit) :=
  let work := [Shape.workFields]
  let both := [Shape.workFields, Shape.partialFields]
  let range := Json.Decode.required "range" Shape.range
  open Params in
  [("textDocument/declaration", goTo),
    ("textDocument/definition", goTo),
    ("textDocument/typeDefinition", goTo),
    ("textDocument/implementation", goTo),
    ("textDocument/references", references),
    ("textDocument/documentHighlight", aboutPosition "DocumentHighlightParams" both),
    ("textDocument/prepareCallHierarchy", aboutPosition "CallHierarchyPrepareParams" work),
    ("callHierarchy/incomingCalls", aboutItem "CallHierarchyIncomingCallsParams" callItem),
    ("callHierarchy/outgoingCalls", aboutItem "CallHierarchyOutgoingCallsParams" callItem),
    ("textDocument/prepareTypeHierarchy", aboutPosition "TypeHierarchyPrepareParams" work),
    ("typeHierarchy/supertypes", aboutItem "TypeHierarchySupertypesParams" typeItem),
    ("typeHierarchy/subtypes", aboutItem "TypeHierarchySubtypesParams" typeItem),
    ("textDocument/moniker", aboutPosition "MonikerParams" both),
    ("textDocument/linkedEditingRange", aboutPosition "LinkedEditingRangeParams" work),
    ("textDocument/documentLink", aboutDocument "DocumentLinkParams" [] both),
    ("documentLink/resolve", documentLink),
    ("textDocument/codeLens", aboutDocument "CodeLensParams" [] both),
    ("codeLens/resolve", codeLens),
    ("textDocument/foldingRange", aboutDocument "FoldingRangeParams" [] both),
    ("textDocument/selectionRange", aboutDocument "SelectionRangeParams"
      [Json.Decode.required "positions" (Json.Decode.list Shape.position)] both),
    ("textDocument/documentSymbol", aboutDocument "DocumentSymbolParams" [] both),
    ("textDocument/semanticTokens/full", aboutDocument "SemanticTokensParams" [] both),
    ("textDocument/semanticTokens/full/delta", aboutDocument "SemanticTokensDeltaParams"
      [Json.Decode.required "previousResultId" Json.Decode.text] both),
    ("textDocument/semanticTokens/range",
      aboutDocument "SemanticTokensRangeParams" [range] both),
    ("textDocument/inlineValue", aboutDocument "InlineValueParams"
      [range, Json.Decode.required "context" inlineValueContext] work),
    ("textDocument/inlayHint", aboutDocument "InlayHintParams" [range] work),
    ("inlayHint/resolve", inlayHint),
    ("completionItem/resolve", completionItem),
    ("textDocument/diagnostic", aboutDocument "DocumentDiagnosticParams"
      [Json.Decode.optional "identifier" Json.Decode.text,
        Json.Decode.optional "previousResultId" Json.Decode.text] both),
    ("workspace/diagnostic", Json.Decode.check (Json.Decode.sideBySide
      "WorkspaceDiagnosticParams"
      [Json.Decode.optional "identifier" Json.Decode.text,
        Json.Decode.required "previousResultIds" (Json.Decode.list previousResult)] both)),
    ("textDocument/signatureHelp", signatureHelp),
    ("textDocument/codeAction", aboutDocument "CodeActionParams"
      [range, Json.Decode.required "context" codeActionContext] both),
    ("codeAction/resolve", codeAction),
    ("textDocument/documentColor", aboutDocument "DocumentColorParams" [] both),
    ("textDocument/colorPresentation", aboutDocument "ColorPresentationParams"
      [Json.Decode.required "color" color, range] both),
    ("textDocument/formatting",
      aboutDocument "DocumentFormattingParams" [formattingOptionsField] work),
    ("textDocument/rangeFormatting",
      aboutDocument "DocumentRangeFormattingParams" [range, formattingOptionsField] work),
    ("textDocument/onTypeFormatting", onTypeFormatting),
    ("textDocument/rename", rename),
    ("textDocument/prepareRename", prepareRename),
    ("textDocument/willSaveWaitUntil", willSave),
    ("workspace/symbol", symbolQuery),
    ("workspaceSymbol/resolve", workspaceSymbol),
    ("workspace/willCreateFiles", aboutFiles "CreateFilesParams" "FileCreate" ["uri"]),
    ("workspace/willRenameFiles",
      aboutFiles "RenameFilesParams" "FileRename" ["oldUri", "newUri"]),
    ("workspace/willDeleteFiles", aboutFiles "DeleteFilesParams" "FileDelete" ["uri"])]

/-- The method of a name. -/
def ofName? (name : String) : Option Method :=
  match supported.lookup name with
  | some m => some m
  | none =>
    match unansweredParams.lookup name with
    | some params => some (unanswered params)
    | none => if unneededNames.contains name then some unneeded else none

end Method

end SageEditor

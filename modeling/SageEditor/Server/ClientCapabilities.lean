/-
What clients tell the server about themselves.

* `Shape.clientCapabilities` — the abilities of a client.

Design notes: the server makes no use of them, but a session does not begin if they are
malformed.  Abilities are grouped by what they concern: the workspace, documents, windows and the
protocol as a whole.
-/
import SageEditor.Server.Shape

namespace SageEditor.Shape

open Json (Decoder)
open Json.Decode

/-! ### Groups that recur -/

/-- Whether the client can be told later that the server provides something. -/
def dynamicRegistration : Field := optional "dynamicRegistration" flag

/-- An ability that has no details. -/
def plainAbility : Decoder Unit :=
  shape "DynamicRegistrationClientCapabilities" [dynamicRegistration]

/-- An ability to show something again on demand. -/
def refreshing (name : String) : Decoder Unit := flags name ["refreshSupport"]

/-- The names of the properties that the client can ask for later. -/
def lazyProperties (name : String) : Decoder Unit :=
  shape name [required "properties" (list text)]

/-- The tags that the client knows. A flag is understood as well. -/
def tags : Decoder Unit
  | .bool _ => .ok ()
  | v => shape "TagSupport" [required "valueSet" (list integer32)] v

def tagSupport : Field := defaulted "tagSupport" tags

/-- The kinds of symbols that the client knows. -/
def symbolKinds : Field :=
  optional "symbolKind" (shape "SymbolKindCapability" [optional "valueSet" (list integer32)])

/-- The formats of documentation that the client knows. -/
def formats (name : String) : Field := optional name (list markupKind)

/-! ### The workspace -/

def workspaceEditAbilities : Decoder Unit :=
  shape "WorkspaceEditClientCapabilities"
    [optional "documentChanges" flag,
      optional "resourceOperations" (list (variant ["create", "rename", "delete"])),
      optional "failureHandling"
        (variant ["abort", "transactional", "textOnlyTransactional", "undo"]),
      optional "normalizesLineEndings" flag,
      optional "changeAnnotationSupport"
        (flags "ChangeAnnotationWorkspaceEditClientCapabilities" ["groupsOnLabel"])]

def workspaceAbilities : Decoder Unit :=
  shape "WorkspaceClientCapabilities"
    [optional "applyEdit" flag,
      optional "workspaceEdit" workspaceEditAbilities,
      optional "didChangeConfiguration" plainAbility,
      optional "didChangeWatchedFiles" (flags "DidChangeWatchedFilesClientCapabilities"
        ["dynamicRegistration", "relativePatternSupport"]),
      optional "symbol" (shape "WorkspaceSymbolClientCapabilities"
        [dynamicRegistration, symbolKinds, tagSupport,
          optional "resolveSupport"
            (lazyProperties "WorkspaceSymbolResolveSupportCapability")]),
      optional "executeCommand" plainAbility,
      optional "workspaceFolders" flag,
      optional "configuration" flag,
      optional "semanticTokens" (refreshing "SemanticTokensWorkspaceClientCapabilities"),
      optional "codeLens" (refreshing "CodeLensWorkspaceClientCapabilities"),
      optional "fileOperations" (flags "WorkspaceFileOperationsClientCapabilities"
        ["dynamicRegistration", "didCreate", "willCreate", "didRename", "willRename",
          "didDelete", "willDelete"]),
      optional "inlineValue" (refreshing "InlineValueWorkspaceClientCapabilities"),
      optional "inlayHint" (refreshing "InlayHintWorkspaceClientCapabilities"),
      optional "diagnostic" (refreshing "DiagnosticWorkspaceClientCapabilities")]

/-! ### Documents -/

def completionItemAbilities : Decoder Unit :=
  shape "CompletionItemCapability"
    [optional "snippetSupport" flag, optional "commitCharactersSupport" flag,
      formats "documentationFormat", optional "deprecatedSupport" flag,
      optional "preselectSupport" flag, tagSupport, optional "insertReplaceSupport" flag,
      optional "resolveSupport" (lazyProperties "CompletionItemCapabilityResolveSupport"),
      optional "insertTextModeSupport"
        (shape "InsertTextModeSupport" [required "valueSet" (list integer32)]),
      optional "labelDetailsSupport" flag]

def completionAbilities : Decoder Unit :=
  shape "CompletionClientCapabilities"
    [dynamicRegistration, optional "completionItem" completionItemAbilities,
      optional "completionItemKind"
        (shape "CompletionItemKindCapability" [optional "valueSet" (list integer32)]),
      optional "contextSupport" flag, optional "insertTextMode" integer32,
      optional "completionList"
        (shape "CompletionListCapability" [optional "itemDefaults" (list text)])]

def signatureAbilities : Decoder Unit :=
  shape "SignatureHelpClientCapabilities"
    [dynamicRegistration,
      optional "signatureInformation" (shape "SignatureInformationSettings"
        [formats "documentationFormat",
          optional "parameterInformation"
            (flags "ParameterInformationSettings" ["labelOffsetSupport"]),
          optional "activeParameterSupport" flag]),
      optional "contextSupport" flag]

def codeActionAbilities : Decoder Unit :=
  shape "CodeActionClientCapabilities"
    [dynamicRegistration,
      optional "codeActionLiteralSupport" (shape "CodeActionLiteralSupport"
        [required "codeActionKind"
          (shape "CodeActionKindLiteralSupport" [required "valueSet" (list text)])]),
      optional "isPreferredSupport" flag, optional "disabledSupport" flag,
      optional "dataSupport" flag,
      optional "resolveSupport" (lazyProperties "CodeActionCapabilityResolveSupport"),
      optional "honorsChangeAnnotations" flag]

def foldingAbilities : Decoder Unit :=
  shape "FoldingRangeClientCapabilities"
    [dynamicRegistration, optional "rangeLimit" natural32, optional "lineFoldingOnly" flag,
      optional "foldingRangeKind" (shape "FoldingRangeKindCapability"
        [optional "valueSet" (list (variant ["comment", "imports", "region"]))]),
      optional "foldingRange" (flags "FoldingRangeCapability" ["collapsedText"])]

/-- Which tokens the client asks for. -/
def tokenRequests : Decoder Unit :=
  shape "SemanticTokensClientCapabilitiesRequests"
    [optional "range" flag,
      optional "full" (anyOf "SemanticTokensFullOptions"
        [check flag, flags "SemanticTokensFullOptions" ["delta"]])]

def tokenAbilities : Decoder Unit :=
  shape "SemanticTokensClientCapabilities"
    [dynamicRegistration, required "requests" tokenRequests,
      required "tokenTypes" (list text), required "tokenModifiers" (list text),
      required "formats" (list text), optional "overlappingTokenSupport" flag,
      optional "multilineTokenSupport" flag, optional "serverCancelSupport" flag,
      optional "augmentsSyntaxTokens" flag]

/-- The ability to go from a name to a place that it stands for. -/
def goToAbilities : Decoder Unit :=
  flags "GotoCapability" ["dynamicRegistration", "linkSupport"]

def documentAbilities : Decoder Unit :=
  shape "TextDocumentClientCapabilities"
    [optional "synchronization" (flags "TextDocumentSyncClientCapabilities"
        ["dynamicRegistration", "willSave", "willSaveWaitUntil", "didSave"]),
      optional "completion" completionAbilities,
      optional "hover"
        (shape "HoverClientCapabilities" [dynamicRegistration, formats "contentFormat"]),
      optional "signatureHelp" signatureAbilities,
      optional "references" plainAbility,
      optional "documentHighlight" plainAbility,
      optional "documentSymbol" (shape "DocumentSymbolClientCapabilities"
        [dynamicRegistration, symbolKinds, optional "hierarchicalDocumentSymbolSupport" flag,
          tagSupport]),
      optional "formatting" plainAbility,
      optional "rangeFormatting" plainAbility,
      optional "onTypeFormatting" plainAbility,
      optional "declaration" goToAbilities,
      optional "definition" goToAbilities,
      optional "typeDefinition" goToAbilities,
      optional "implementation" goToAbilities,
      optional "codeAction" codeActionAbilities,
      optional "codeLens" plainAbility,
      optional "documentLink"
        (flags "DocumentLinkClientCapabilities" ["dynamicRegistration", "tooltipSupport"]),
      optional "colorProvider" plainAbility,
      optional "rename" (shape "RenameClientCapabilities"
        [dynamicRegistration, optional "prepareSupport" flag,
          optional "prepareSupportDefaultBehavior" integer32,
          optional "honorsChangeAnnotations" flag]),
      optional "publishDiagnostics" (shape "PublishDiagnosticsClientCapabilities"
        [optional "relatedInformation" flag, tagSupport, optional "versionSupport" flag,
          optional "codeDescriptionSupport" flag, optional "dataSupport" flag]),
      optional "foldingRange" foldingAbilities,
      optional "selectionRange"
        (shape "SelectionRangeClientCapabilities" [dynamicRegistration]),
      optional "linkedEditingRange" plainAbility,
      optional "callHierarchy" plainAbility,
      optional "semanticTokens" tokenAbilities,
      optional "moniker" plainAbility,
      optional "typeHierarchy" plainAbility,
      optional "inlineValue" plainAbility,
      optional "inlayHint" (shape "InlayHintClientCapabilities"
        [dynamicRegistration,
          optional "resolveSupport" (lazyProperties "InlayHintResolveClientCapabilities")]),
      optional "diagnostic" (flags "DiagnosticClientCapabilities"
        ["dynamicRegistration", "relatedDocumentSupport"])]

/-! ### Windows and the protocol -/

def windowAbilities : Decoder Unit :=
  shape "WindowClientCapabilities"
    [optional "workDoneProgress" flag,
      optional "showMessage" (shape "ShowMessageRequestClientCapabilities"
        [optional "messageActionItem"
          (flags "MessageActionItemCapabilities" ["additionalPropertiesSupport"])]),
      optional "showDocument"
        (shape "ShowDocumentClientCapabilities" [required "support" flag])]

def generalAbilities : Decoder Unit :=
  shape "GeneralClientCapabilities"
    [optional "regularExpressions" (shape "RegularExpressionsClientCapabilities"
        [required "engine" text, optional "version" text]),
      optional "markdown" (shape "MarkdownClientCapabilities"
        [required "parser" text, optional "version" text, optional "allowedTags" (list text)]),
      optional "staleRequestSupport" (shape "StaleRequestSupportClientCapabilities"
        [required "cancel" flag, required "retryOnContentModified" (list text)]),
      optional "positionEncodings" (list text)]

/-- The abilities of a client. -/
def clientCapabilities : Decoder Unit :=
  shape "ClientCapabilities"
    [optional "workspace" workspaceAbilities,
      optional "textDocument" documentAbilities,
      optional "window" windowAbilities,
      optional "general" generalAbilities,
      optional "experimental" any]

end SageEditor.Shape

/-
The values that messages of the protocol are made of.

* `Shape.url`, `Shape.position`, `Shape.range`, `Shape.document` — where something is;
* `Shape.command`, `Shape.textEdit`, `Shape.workspaceEdit`, `Shape.diagnostic` — what can be done
  there, and what is said about it;
* `Shape.placeFields`, `Shape.workFields`, `Shape.partialFields` — the records that stand side by
  side in the parameters of many requests.

Design notes: most of these values mean nothing to this server, which only checks that they have
their shape.  Numbers that stand for a kind are any whole numbers, since a client may know more
kinds than the server.
-/
import SageEditor.Document
import SageEditor.Json.Decode
import SageEditor.Url.Basic

namespace SageEditor.Shape

open Json (Decoder)
open Json.Decode

/-! ### Places -/

/-- A URL, in its normal form. -/
def url : Decoder String
  | .string s =>
    match Url.parse s with
    | .ok u => .ok u.text
    | .error e => .error (.refused e.message s)
  | v => differs v "a string representing an URL"

/-- A position, as a value by itself or inside of records that stand side by side. -/
def positionIn (form : Form) : Decoder Position := fun v => do
  let ms ← recordIn form "Position" [required "line" natural32, required "character" natural32] v
  return ⟨← field ms "line" natural32, ← field ms "character" natural32⟩

def position : Decoder Position := positionIn .direct

def range : Decoder Unit :=
  shape "Range" [required "start" position, required "end" position]

def location : Decoder Unit :=
  shape "Location" [required "uri" url, required "range" range]

/-- The URL of a document. -/
def documentIn (form : Form) : Decoder String := fun v => do
  let ms ← recordIn form "TextDocumentIdentifier" [required "uri" url] v
  field ms "uri" url

def document : Decoder String := documentIn .direct

/-! ### Texts -/

/-- A number or a name. -/
def token : Decoder Unit := anyOf "NumberOrString" [check integer32, check text]

/-- The formats of documentation. -/
def markupKind : Decoder Unit := variant ["plaintext", "markdown"]

def markup : Decoder Unit :=
  shape "MarkupContent" [required "kind" markupKind, required "value" text]

/-- Plain text or documentation in a format. -/
def textOrMarkup (name : String) : Decoder Unit := anyOf name [check text, markup]

/-! ### Commands and edits -/

def command : Decoder Unit :=
  shape "Command"
    [required "title" text, required "command" text, optional "arguments" (list any)]

def textEdit : Decoder Unit :=
  shape "TextEdit" [required "range" range, required "newText" text]

/-- An edit with the name of a note about it. -/
def annotatedTextEdit : Decoder Unit :=
  check (sideBySide "AnnotatedTextEdit" [required "annotationId" text]
    [[required "range" range, required "newText" text]])

/-- The edits of one document. -/
def documentEdit : Decoder Unit :=
  shape "TextDocumentEdit"
    [required "textDocument" (shape "OptionalVersionedTextDocumentIdentifier"
        [required "uri" url, optional "version" integer32]),
      required "edits" (list (anyOf "OneOf" [textEdit, annotatedTextEdit]))]

/-- The options of an operation on files, which all are flags. -/
def flags (name : String) (names : List String) : Decoder Unit :=
  shape name (names.map fun n => optional n flag)

/-- An operation on files, told by the member `kind`. -/
def fileOperation : Decoder Unit := fun v =>
  match v.member? "kind" with
  | some (.string "create") =>
    shape "CreateFile" [required "uri" url,
      optional "options" (flags "CreateFileOptions" ["overwrite", "ignoreIfExists"]),
      optional "annotationId" text] v
  | some (.string "rename") =>
    shape "RenameFile" [required "oldUri" url, required "newUri" url,
      optional "options" (flags "RenameFileOptions" ["overwrite", "ignoreIfExists"]),
      optional "annotationId" text] v
  | some (.string "delete") =>
    shape "DeleteFile" [required "uri" url,
      optional "options" (shape "DeleteFileOptions"
        [optional "recursive" flag, optional "ignoreIfNotExists" flag,
          optional "annotationId" text])] v
  | _ => .error (.missingField "kind")

/-- The edits of several documents, with operations on files between them. -/
def documentChanges : Decoder Unit :=
  anyOf "DocumentChanges" [
    check (list documentEdit),
    check (list (anyOf "DocumentChangeOperation" [fileOperation, documentEdit]))]

def changeAnnotation : Decoder Unit :=
  shape "ChangeAnnotation"
    [required "label" text, optional "needsConfirmation" flag, optional "description" text]

def workspaceEdit : Decoder Unit :=
  shape "WorkspaceEdit"
    [defaulted "changes" (dictionary "map" (fun key => check url (.string key))
        (check (list textEdit))),
      optional "documentChanges" documentChanges,
      optional "changeAnnotations" (dictionary "a map" (fun _ => .ok ()) changeAnnotation)]

/-! ### Diagnostics -/

def diagnostic : Decoder Unit :=
  shape "Diagnostic"
    [required "range" range, optional "severity" integer32, optional "code" token,
      optional "codeDescription" (shape "CodeDescription" [required "href" url]),
      optional "source" text, required "message" text,
      optional "relatedInformation" (list (shape "DiagnosticRelatedInformation"
        [required "location" location, required "message" text])),
      optional "tags" (list integer32), optional "data" any]

/-! ### Records that stand side by side -/

/-- The record of a document and a position in it. -/
def placeFields : List Field :=
  [required "textDocument" (documentIn .nested), required "position" (positionIn .nested)]

/-- The records of tokens for progress and for partial results. -/
def workFields : List Field := [optional "workDoneToken" token]

def partialFields : List Field := [optional "partialResultToken" token]

/-- The document and the position of a request. -/
def place (ms : Json.Object) : Except Json.Mismatch (String × Position) := do
  return (← field ms "textDocument" (documentIn .nested),
    ← field ms "position" (positionIn .nested))

end SageEditor.Shape

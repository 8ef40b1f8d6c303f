import SageEditor.Assistance
import SageEditor.CommandLine.Serve
import SageEditor.File.Directory
import SageEditor.Main
import SageEditor.Run.Launch
import SageEditor.Proofs.Highlight.Meaning
import SageEditor.Proofs.Highlight.WholeWord
import SageEditor.Proofs.Highlight.Engine
import SageEditor.Proofs.Highlight.Spelling
import SageEditor.Proofs.Json.Token
import SageEditor.Proofs.Json.Lexeme
import SageEditor.Proofs.Json.Grammar
import SageEditor.Proofs.Text.Occurrence
import SageEditor.Proofs.Json.Exchange
import SageEditor.Proofs.Highlight.Placeholder
import SageEditor.Proofs.Highlight.Injection
import SageEditor.Proofs.Json.Object
import SageEditor.Proofs.Server.Settings
import SageEditor.Proofs.Assistance.Agreement
import SageEditor.Proofs.Server.History
import SageEditor.Proofs.Server.Documents
import SageEditor.Proofs.Server.Tables
import SageEditor.Proofs.Server.Lifecycle
import SageEditor.Proofs.Document.Highlighted
import SageEditor.Proofs.Json.Numeral
import SageEditor.Proofs.Json.Skipped
import SageEditor.Proofs.Decimal.Shortest
import SageEditor.Proofs.Json.Written
import SageEditor.Proofs.Catalog.Rendered
import SageEditor.Proofs.Jsonc.Grammar
import SageEditor.Proofs.Jsonc.Written
import SageEditor.Proofs.File.Rewriting
import SageEditor.Proofs.File.Steps
import SageEditor.Proofs.Run.Byproduct
import SageEditor.Proofs.Settings.Update
import SageEditor.Proofs.Jsonc.Meaning
import SageEditor.Proofs.Settings.Kept
import SageEditor.Proofs.Text.LineEnding
import SageEditor.Proofs.Document.LineEnding
import SageEditor.Proofs.Document.Cursor
import SageEditor.Proofs.Assistance.Listing
import SageEditor.Proofs.Assistance.Narrowing
import SageEditor.Proofs.File.Placing
import SageEditor.Proofs.File.Replacing
import SageEditor.Proofs.Highlight.Files
import SageEditor.Proofs.Settings.Failed
import SageEditor.Proofs.Assistance.Lookup
import SageEditor.Proofs.File.Removing
import SageEditor.Proofs.Run.Effect
import SageEditor.Proofs.Settings.Overlay
import SageEditor.Proofs.Server.Reload
import SageEditor.Proofs.Url.FilePath
import SageEditor.Proofs.Run.ShellLine
import SageEditor.Proofs.Document.Scan

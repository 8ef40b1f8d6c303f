/-
The entry for Sage files in an editor's table of commands.

* `ExecutionMode` — whether what a run leaves behind is removed;
* `executorCommand` — the command of a mode;
* `executorMap` — a table of commands with the entry for Sage files set;
* `setExecutor` — a settings document with that table in it.

Design notes: everything else in the table and in the document is kept.  What is not an object
counts as an empty one.
-/
import SageEditor.Json.Basic

namespace SageEditor

inductive ExecutionMode where
  | runOnly
  /-- The file that a successful run leaves beside the source is deleted. -/
  | runAndClean
deriving DecidableEq, Repr, Inhabited

namespace ExecutionMode

/-- The name of a mode in settings. -/
def name : ExecutionMode → String
  | runOnly => "runOnly"
  | runAndClean => "runAndClean"

/-- The mode of a setting: cleaning has to be asked for by its name. -/
def ofSetting (setting : Option String) : ExecutionMode :=
  if setting = some "runAndClean" then runAndClean else runOnly

def cleans : ExecutionMode → Bool
  | runOnly => false
  | runAndClean => true

end ExecutionMode

def executorCommand : ExecutionMode → String
  | .runOnly => "sage $fullFileName"
  | .runAndClean => "sage $fullFileName && rm $\x7bfullFileName\x7d.py"

/-- The setting that holds the table of commands. -/
def executorMapKey : String := "code-runner.executorMapByFileExtension"

/-- The entry for Sage files in the table. -/
def executorEntry : String := ".sage"

/-- The members of an object; none for any other value. -/
def Json.membersOf : Json → Json.Object
  | .object members => members
  | _ => []

/-- A table of commands with the entry for Sage files set. -/
def executorMap (table : Option Json) (mode : ExecutionMode) : Json.Object :=
  ((table.map Json.membersOf).getD []).insert executorEntry (.string (executorCommand mode))

/-- A settings document with the entry set in its table of commands. -/
def setExecutor (settings : Json) (mode : ExecutionMode) : Json :=
  let root := settings.membersOf
  .object (root.insert executorMapKey (.object (executorMap (root.get? executorMapKey) mode)))

end SageEditor

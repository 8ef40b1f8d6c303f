/-
What the system says when work with files fails.

* `FileError` — the causes, with their `message`.
-/
import SageEditor.File.Path
import SageEditor.Text.Quoted

namespace SageEditor

/-- Why work with files or programs fails. -/
inductive FileError where
  | notPermitted
  | notFound
  | badFormat
  | denied
  | busy
  | alreadyExists
  | notDirectory
  | isDirectory
  | noSpace
  | nameTooLong
  | notEmpty
  /-- Files lead to one another too often. -/
  | tooManyLevels
  /-- The system does not accept a name. -/
  | invalid
  /-- A file that is read as text is not UTF-8. -/
  | notText
  /-- A path contains a zero byte. -/
  | zeroInPath
  /-- The name or an argument of a program contains a zero byte. -/
  | zeroInData
  /-- The error concerns a temporary file at the path. -/
  | atPath (e : FileError) (p : Path)
deriving DecidableEq, Repr

namespace FileError

def message : FileError → String
  | notPermitted => "Operation not permitted (os error 1)"
  | notFound => "No such file or directory (os error 2)"
  | badFormat => "Exec format error (os error 8)"
  | denied => "Permission denied (os error 13)"
  | alreadyExists => "File exists (os error 17)"
  | busy => "Device or resource busy (os error 16)"
  | notDirectory => "Not a directory (os error 20)"
  | isDirectory => "Is a directory (os error 21)"
  | invalid => "Invalid argument (os error 22)"
  | noSpace => "No space left on device (os error 28)"
  | nameTooLong => "File name too long (os error 36)"
  | notEmpty => "Directory not empty (os error 39)"
  | tooManyLevels => "Too many levels of symbolic links (os error 40)"
  | notText => "stream did not contain valid UTF-8"
  | zeroInPath => "file name contained an unexpected NUL byte"
  | zeroInData => "nul byte found in provided data"
  | atPath e p => s!"{e.message} at path {Text.quoted p.display}"

/-- The error of a system's error number. -/
def ofCode? : Nat → Option FileError
  | 1 => some notPermitted
  | 2 => some notFound
  | 8 => some badFormat
  | 13 => some denied
  | 16 => some busy
  | 17 => some alreadyExists
  | 20 => some notDirectory
  | 21 => some isDirectory
  | 22 => some invalid
  | 28 => some noSpace
  | 36 => some nameTooLong
  | 39 => some notEmpty
  | 40 => some tooManyLevels
  | _ => none

end FileError

end SageEditor

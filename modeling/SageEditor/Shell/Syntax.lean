/-
The commands of a shell.

* `Part`, `ShellWord` — what a word is made of before its expansion;
* `Command` — commands, joined by sequence, condition, repetition and choice;
* `Redirect` — where a command reads from and writes to.

Design notes: a text of the shell consists of bytes, which are held as the characters of the same
numbers.  A quoted part of a word is neither split nor read as a pattern after its expansion.
-/

namespace SageEditor.Shell

/-- What a parameter in braces is used for.  A colon makes an empty value count as none. -/
inductive ParameterUse where
  | value
  | length
  | orElse (colon : Bool)
  | orAssign (colon : Bool)
  | orFail (colon : Bool)
  | andThen (colon : Bool)
  | trimStart (longest : Bool)
  | trimEnd (longest : Bool)
  | unknown
deriving DecidableEq, Repr

inductive RedirectKind where
  | input
  | output
  | append
  | update
  /-- The target is a descriptor whose file is shared, or a dash that closes. -/
  | duplicate
  /-- The target is the text itself. -/
  | document
deriving DecidableEq, Repr

mutual

inductive Part where
  | text (cs : List Char) (quoted : Bool)
  | parameter (name : List Char) (use : ParameterUse) (word : List Part) (quoted : Bool)
  | arithmetic (expression : List Part) (quoted : Bool)
  | substitution (body : List Command) (quoted : Bool)

/-- A command.  Where a command has a line, messages name it. -/
inductive Command where
  | simple (line : Nat) (assignments : List (List Char × List Part)) (words : List (List Part))
      (redirects : List Redirect)
  | sequence (commands : List Command)
  | background (body : Command)
  | both (first second : Command)
  | either (first second : Command)
  | negation (body : Command)
  | pipeline (stages : List Command)
  | branch (condition yes no : Command)
  /-- Repeats the body as long as the condition has an outcome. -/
  | loop (outcome : Bool) (condition body : Command)
  | forEach (line : Nat) (name : List Char) (words : List (List Part)) (body : Command)
  | choice (line : Nat) (subject : List Part) (cases : List (List (List Part) × Command))
  | define (name : List Char) (body : Command)
  | subshell (body : Command)
  | redirected (line : Nat) (body : Command) (redirects : List Redirect)

inductive Redirect where
  | mk (descriptor : Nat) (kind : RedirectKind) (target : List Part)

end

instance : Inhabited Command := ⟨.sequence []⟩

/-- A word before its expansion. -/
abbrev ShellWord := List Part

namespace Part

/-- The characters of a part that is text, as they stand. -/
def literal? : Part → Option (List Char)
  | text cs _ => some cs
  | _ => none

def isQuoted : Part → Bool
  | text _ quoted | parameter _ _ _ quoted | arithmetic _ quoted | substitution _ quoted => quoted

end Part

namespace ShellWord

/-- Joins neighbouring texts that are quoted alike. -/
def joined : ShellWord → ShellWord
  | .text cs q :: rest =>
    match joined rest with
    | .text ds r :: more =>
      if q == r && !cs.isEmpty && !ds.isEmpty then .text (cs ++ ds) q :: more
      else .text cs q :: .text ds r :: more
    | more => .text cs q :: more
  | p :: rest => p :: joined rest
  | [] => []

/-- The text of a word in which nothing is quoted or expanded. -/
def plain? : ShellWord → Option (List Char)
  | [] => some []
  | .text cs false :: rest => (plain? rest).map (cs ++ ·)
  | _ => none

end ShellWord

/-! ### Names -/

def isNameStart (c : Char) : Bool := c.isAlpha || c == '_'

def isNameChar (c : Char) : Bool := c.isAlphanum || c == '_'

def isName : List Char → Bool
  | [] => false
  | c :: rest => isNameStart c && rest.all isNameChar

/-- Whether a character names a parameter that the shell sets. -/
def isSpecial (c : Char) : Bool := ['?', '#', '$', '*', '@', '!', '-'].contains c || c.isDigit

/-- The name and the value of a word that is an assignment. -/
def assignment? : ShellWord → Option (List Char × ShellWord)
  | .text cs false :: rest =>
    let name := cs.takeWhile isNameChar
    match cs.drop name.length with
    | '=' :: value =>
      if isName name then some (name, if value.isEmpty then rest else .text value false :: rest)
      else none
    | _ => none
  | _ => none

end SageEditor.Shell

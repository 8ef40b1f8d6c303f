/-
Fields of expanded words.

* `Glyph` — a character of an expanded word, with what quoting has left of it;
* `fields` — the fields that glyphs form;
* `textOf` — the text that they form where words are not split.

Design notes: only what an expansion has put in place of a parameter or a command is split.  Blank
separators count as one wherever they stand together; any other separator ends a field by itself.
-/
import SageEditor.Shell.Syntax

namespace SageEditor.Shell

/-- A character of an expanded word, or a mark between characters. -/
inductive Glyph where
  | char (c : Char) (quoted splits : Bool)
  /-- A field stands here even if nothing is in it. -/
  | hold
  /-- A new field begins. -/
  | boundary
deriving DecidableEq, Repr

/-- The characters of a field, with what is quoted of them. -/
abbrev Field := List (Char × Bool)

def glyphsOf (cs : List Char) (quoted : Bool) : List Glyph :=
  (if quoted then [.hold] else []) ++ cs.map fun c => .char c quoted (!quoted)

/-- Fields under construction, last one first. -/
structure Splitting where
  complete : List Field
  /-- The current field, last character first. -/
  current : Option Field
  /-- Whether blanks have ended the last field, so that a separator may still follow it. -/
  afterBlank : Bool

namespace Splitting

def start : Splitting := ⟨[], none, false⟩

def close (s : Splitting) : Splitting :=
  match s.current with
  | none => s
  | some field => { s with complete := field.reverse :: s.complete, current := none }

def pass (separators : List Char) (s : Splitting) : Glyph → Splitting
  | .hold => { s with current := some (s.current.getD []), afterBlank := false }
  | .boundary => { s.close with afterBlank := false }
  | .char c quoted splits =>
    if splits && separators.contains c then
      if c == ' ' || c == '\t' || c == '\n' then
        if s.current.isSome then { s.close with afterBlank := true } else s
      else if s.current.isSome then { s.close with afterBlank := false }
      else if s.afterBlank then { s with afterBlank := false }
      else { s with complete := [] :: s.complete }
    else { s with current := some ((c, quoted) :: s.current.getD []), afterBlank := false }

end Splitting

def fields (separators : List Char) (gs : List Glyph) : List Field :=
  (gs.foldl (Splitting.pass separators) .start).close.complete.reverse

/-- The characters of glyphs that are not split; a blank stands between fields. -/
def unsplit : List Glyph → Field
  | [] => []
  | .char c quoted _ :: rest => (c, quoted) :: unsplit rest
  | .hold :: rest => unsplit rest
  | .boundary :: rest => (' ', true) :: unsplit rest

/-- The text of glyphs that are not split. -/
def textOf (gs : List Glyph) : List Char := (unsplit gs).map (·.1)

/-- Splits text at separators into at most so many fields, the last of which is the rest, as
`read` does.  Quoted characters do not separate. -/
def fieldsUpTo (separators : List Char) : (count : Nat) → Field → List (List Char)
  | 0, _ => []
  | count + 1, cs =>
    let isBlank (c : Char × Bool) : Bool :=
      !c.2 && separators.contains c.1 && (c.1 == ' ' || c.1 == '\t' || c.1 == '\n')
    let cs := cs.dropWhile isBlank
    match count with
    | 0 =>
      let trimmed := (cs.reverse.dropWhile isBlank).reverse
      let ends (c : Char × Bool) : Bool := !c.2 && separators.contains c.1
      let body := trimmed.takeWhile (!ends ·)
      let whole := if body.length + 1 = trimmed.length then body else trimmed
      [whole.map (·.1)]
    | count + 1 =>
      let field := cs.takeWhile fun c => c.2 || !separators.contains c.1
      let rest := (cs.drop field.length).dropWhile isBlank
      let rest :=
        match rest with
        | c :: more => if !c.2 && separators.contains c.1 then more else rest
        | [] => []
      field.map (·.1) :: fieldsUpTo separators (count + 1) rest

end SageEditor.Shell

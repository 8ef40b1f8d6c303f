/-
Shell patterns.

* `Pattern` — a sequence of characters, sets of characters, and stars;
* `Pattern.ofGlyphs` — the pattern of a text of which some characters are quoted;
* `Pattern.accepts` — whether a text as a whole fits a pattern;
* `Pattern.trimStart`, `Pattern.trimEnd` — a text without a beginning or an end that fits.
-/

namespace SageEditor.Shell

inductive Atom where
  | one (c : Char)
  | any
  | many
  /-- A character of one of the ranges, or of none of them. -/
  | oneOf (negated : Bool) (ranges : List (Char × Char))
deriving DecidableEq, Repr

abbrev Pattern := List Atom

namespace Pattern

/-- The ranges of a named class of characters. -/
def classRanges (name : List Char) : List (Char × Char) :=
  match String.ofList name with
  | "alpha" => [('a', 'z'), ('A', 'Z')]
  | "digit" => [('0', '9')]
  | "alnum" => [('a', 'z'), ('A', 'Z'), ('0', '9')]
  | "upper" => [('A', 'Z')]
  | "lower" => [('a', 'z')]
  | "space" => [(' ', ' '), ('\t', '\r')]
  | "blank" => [(' ', ' '), ('\t', '\t')]
  | "punct" => [('!', '/'), (':', '@'), ('[', '\x60'), ('\x7b', '~')]
  | "xdigit" => [('0', '9'), ('a', 'f'), ('A', 'F')]
  | "cntrl" => [('\x00', '\x1f'), ('\x7f', '\x7f')]
  | "print" => [(' ', '~')]
  | "graph" => [('!', '~')]
  | _ => []

/-- The ranges of a set up to its closing bracket, which may stand first as a member, and what
follows the bracket. -/
def ranges (first : Bool) : (bound : Nat) → List (Char × Bool) →
    Option (List (Char × Char) × List (Char × Bool))
  | 0, _ => none
  | _, [] => none
  | bound + 1, (c, quoted) :: rest =>
    if c == ']' && !quoted && !first then some ([], rest)
    else
      match c, quoted, rest with
      | '[', false, (':', false) :: more =>
        let name := more.takeWhile (·.1 != ':')
        match more.drop name.length with
        | (':', _) :: (']', _) :: after =>
          (ranges false bound after).map fun (rs, after) =>
            (classRanges (name.map (·.1)) ++ rs, after)
        | _ => (ranges false bound rest).map fun (rs, after) => (('[', '[') :: rs, after)
      | c, _, ('-', false) :: (d, q) :: after =>
        if d == ']' && !q then (ranges false bound rest).map fun (rs, after) => ((c, c) :: rs, after)
        else (ranges false bound after).map fun (rs, after) => ((c, d) :: rs, after)
      | c, _, rest => (ranges false bound rest).map fun (rs, after) => ((c, c) :: rs, after)

/-- The pattern of a text, given with what of it is quoted. -/
def ofGlyphsUpTo : (bound : Nat) → List (Char × Bool) → Pattern
  | 0, _ => []
  | _, [] => []
  | bound + 1, (c, true) :: rest => .one c :: ofGlyphsUpTo bound rest
  | bound + 1, ('*', false) :: rest => .many :: ofGlyphsUpTo bound rest
  | bound + 1, ('?', false) :: rest => .any :: ofGlyphsUpTo bound rest
  | bound + 1, ('\\', false) :: (c, _) :: rest => .one c :: ofGlyphsUpTo bound rest
  | bound + 1, ('[', false) :: rest =>
    let (negated, members) :=
      match rest with
      | ('!', false) :: members | ('^', false) :: members => (true, members)
      | members => (false, members)
    match ranges true bound members with
    | some (rs, after) => .oneOf negated rs :: ofGlyphsUpTo bound after
    | none => .one '[' :: ofGlyphsUpTo bound rest
  | bound + 1, (c, false) :: rest => .one c :: ofGlyphsUpTo bound rest

def ofGlyphs (glyphs : List (Char × Bool)) : Pattern :=
  ofGlyphsUpTo (glyphs.length + 1) glyphs

def fits (c : Char) : Atom → Bool
  | .one d => c == d
  | .any | .many => true
  | .oneOf negated rs => rs.any (fun (low, high) => low ≤ c && c ≤ high) != negated

/-- The remainders of a text: the text itself, and it without its first characters. -/
def remainders : List Char → List (List Char)
  | [] => [[]]
  | c :: rest => (c :: rest) :: remainders rest

def accepts : Pattern → List Char → Bool
  | [], cs => cs.isEmpty
  | .many :: atoms, cs => (remainders cs).any (accepts atoms)
  | _ :: _, [] => false
  | a :: atoms, c :: rest => fits c a && accepts atoms rest

/-- A text without its shortest or longest beginning that fits. -/
def trimStart (p : Pattern) (longest : Bool) (cs : List Char) : List Char :=
  let lengths := List.range (cs.length + 1)
  let lengths := if longest then lengths.reverse else lengths
  match lengths.find? fun n => p.accepts (cs.take n) with
  | some n => cs.drop n
  | none => cs

/-- A text without its shortest or longest end that fits. -/
def trimEnd (p : Pattern) (longest : Bool) (cs : List Char) : List Char :=
  let lengths := List.range (cs.length + 1)
  let lengths := if longest then lengths else lengths.reverse
  match lengths.find? fun n => p.accepts (cs.drop n) with
  | some n => cs.take n
  | none => cs

/-- Whether a text has characters by which a pattern differs from a text. -/
def isProper (p : Pattern) : Bool :=
  p.any fun
    | .one _ => false
    | _ => true

end Pattern

end SageEditor.Shell

/-
Patterns that match the names of symbols.

* `Pattern` — the regular expressions that are needed: characters, word boundaries,
  concatenation, alternatives and groups;
* `Pattern.text` — how a pattern is written;
* `Pattern.ofNames` — a pattern for any of several names as a whole word.

Design notes: a boundary beside a character that is no word character would ask for a word
character on its other side, so boundaries stand only at those ends of a name that are word
characters.  If all ends are, one pair of boundaries around the group serves for all names.  A
position cannot be both a boundary and none, so the pattern for no names matches nowhere.
-/
import SageEditor.Text.Word

namespace SageEditor.Highlight

inductive Pattern where
  | empty
  | literal (c : Char)
  /-- A position between a word character and something else. -/
  | boundary
  /-- Any other position. -/
  | interior
  | seq (p q : Pattern)
  | either (p q : Pattern)
  | group (p : Pattern)
deriving DecidableEq, Repr, Inhabited

/-- The characters that stand for themselves only behind a backslash. -/
def metacharacters : List Char :=
  ['\\', '.', '+', '*', '?', '(', ')', '|', '[', ']', '{', '}', '^', '$', '#', '&', '-', '~']

/-- A character as a pattern writes it. -/
def escape (c : Char) : List Char :=
  if metacharacters.contains c then ['\\', c] else [c]

namespace Pattern

def chars : Pattern → List Char
  | empty => []
  | literal c => escape c
  | boundary => ['\\', 'b']
  | interior => ['\\', 'B']
  | seq p q => p.chars ++ q.chars
  | either p q => p.chars ++ '|' :: q.chars
  | group p => '(' :: p.chars ++ [')']

def text (p : Pattern) : String :=
  String.ofList p.chars

def ofChars (cs : List Char) : Pattern :=
  cs.foldr (fun c p => seq (literal c) p) empty

/-- A boundary at an end of a name, if the character there asks for one. -/
def edge : Option Char → Pattern
  | some c => if Text.isWordChar c then boundary else empty
  | none => empty

/-- A name with a boundary at each end that is a word character. -/
def bounded (name : List Char) : Pattern :=
  seq (edge name.head?) (seq (ofChars name) (edge name.getLast?))

def oneOf (first : Pattern) : List Pattern → Pattern
  | [] => first
  | next :: others => either first (oneOf next others)

def never : Pattern := seq boundary interior

end Pattern

/-- Whether a name begins and ends with a word character. -/
def wordEdged (name : List Char) : Bool :=
  name.head?.any Text.isWordChar && name.getLast?.any Text.isWordChar

/-- The names that are not empty, as character sequences. -/
def namesToMatch (names : List String) : List (List Char) :=
  (names.map String.toList).filter (!·.isEmpty)

namespace Pattern

/-- Any of the names, with one pair of boundaries around all of them. -/
def enclosed (first : List Char) (others : List (List Char)) : Pattern :=
  .seq .boundary (.seq (.group (.oneOf (.ofChars first) (others.map .ofChars))) .boundary)

/-- Any of the names, each with the boundaries that its ends ask for. -/
def separate (first : List Char) (others : List (List Char)) : Pattern :=
  .group (.oneOf (.bounded first) (others.map .bounded))

/-- The pattern for any of the names as a whole word. -/
def ofNames (names : List String) : Pattern :=
  match namesToMatch names with
  | [] => .never
  | first :: others =>
    if (first :: others).all wordEdged then enclosed first others else separate first others

end Pattern

end SageEditor.Highlight

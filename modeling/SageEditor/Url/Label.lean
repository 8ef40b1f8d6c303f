/-
Labels: what stands between the dots of a domain.

* `Label.read?` — the label that a folded text stands for, encoded or not;
* `Label.isWellFormed` — whether a label may stand in a domain;
* `Label.runsOneWay` — whether the order of its characters is the same in every surrounding;
* `Label.toAscii?` — its form in ASCII.

Design notes: a label in ASCII may encode one beyond it, and then it has to be the only encoding of
a label that folding leaves alone.  An invisible joiner is allowed where it changes how its
neighbours look, so that no two labels look alike for its sake.
-/
import SageEditor.Text.Composition
import SageEditor.Text.Direction
import SageEditor.Text.Joining
import SageEditor.Url.Folding
import SageEditor.Url.Punycode

namespace SageEditor.Label

def isAscii (cs : List Char) : Bool :=
  cs.all (·.toNat < 0x80)

/-- The mark of an encoded label. -/
def encodedMark : List Char := ['x', 'n', '-', '-']

/-- The most characters that are decoded, and the most that are encoded. -/
def longestEncoded : Nat := 2000
def longestPlain : Nat := 1000

/-- The label that an encoded one stands for, after its mark. -/
def decode? (encoded : List Char) : Option (List Char) := do
  if longestEncoded < encoded.length then none
  let label ← Punycode.decode? encoded
  -- Otherwise the label would have another spelling, which is the one to use.
  if !isAscii label && label.all Url.isPlain && Text.normal label == label &&
      !encodedMark.isPrefixOf label then
    some label
  else none

/-- The label that a folded and composed text stands for. -/
def read? (text : List Char) : Option (List Char) :=
  if encodedMark.isPrefixOf text then
    if isAscii text then decode? (text.drop encodedMark.length) else none
  else some text

/-! ### Joiners -/

/-- Whether a sign that kills a vowel stands last in a text, which is given from its end. -/
def endsInVirama : (before : List Char) → Bool
  | [] => false
  | c :: _ => Text.combiningClass c == 9

/-- Whether the first letter of a text, seen through marks, is one of a kind. -/
def meets (kind : Char → Bool) (cs : List Char) : Bool :=
  match cs.dropWhile Text.isTransparent with
  | [] => false
  | c :: _ => kind c

/-- Whether every joiner stands behind a virama or, if it keeps letters apart, between letters
that would join.  `before` is what stands before the text, from its end. -/
def joinersFit : (before : List Char) → List Char → Bool
  | _, [] => true
  | before, c :: rest =>
    let fits :=
      match c with
      | '\u200d' => endsInVirama before
      | '\u200c' => endsInVirama before || (meets Text.joinsNext before && meets Text.joinsPrevious rest)
      | _ => true
    fits && joinersFit (c :: before) rest

/-- Whether a label may stand in a domain: it begins with no mark and its joiners fit. -/
def isWellFormed (label : List Char) : Bool :=
  !(label.head?.any Text.isMark) && joinersFit [] label

/-! ### Direction -/

/-- Whether a character calls for writing from right to left. -/
def turns (c : Char) : Bool :=
  match Text.direction c with
  | .rightToLeft | .arabicNumber => true
  | _ => false

/-- Whether the order of the characters is the same in every surrounding.  A label keeps the
direction of its first letter and ends, marks aside, in a letter of it or in a digit; digits of
both kinds do not stand together. -/
def runsOneWay (label : List Char) : Bool :=
  let directions := label.map Text.direction
  let last := (directions.reverse.dropWhile (· == .mark)).head?
  match directions with
  | [] => true
  | .leftToRight :: _ =>
    directions.all [.leftToRight, .europeanNumber, .neutral, .mark].contains &&
      (last == some .leftToRight || last == some .europeanNumber)
  | .rightToLeft :: _ =>
    !directions.contains .leftToRight && last != some .neutral &&
      !(directions.contains .arabicNumber && directions.contains .europeanNumber)
  | _ => false

/-! ### ASCII -/

def toAscii? (label : List Char) : Option (List Char) :=
  if isAscii label then some label
  else if longestPlain < label.length then none
  else some (encodedMark ++ Punycode.encode label)

end SageEditor.Label

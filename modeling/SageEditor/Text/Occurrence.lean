/-
Occurrences of a piece of text.

* `pieces` — what a text consists of between the occurrences of a needle;
* `occurrences` — their number;
* `replace` — the text with another one in place of each of them;
* `split` — the parts between the occurrences of a character.

Design notes: occurrences are looked for from left to right and do not overlap.  The walk counts
the characters of an occurrence that are still to be passed over, so it is structural on the text.
-/

namespace SageEditor.Text

/-- The first piece and the further ones, after `skip` characters of an occurrence. -/
def piecesFrom (needle : List Char) : (skip : Nat) → List Char → List Char × List (List Char)
  | _, [] => ([], [])
  | skip + 1, _ :: rest => piecesFrom needle skip rest
  | 0, c :: rest =>
    if needle.isPrefixOf (c :: rest) then
      let (first, others) := piecesFrom needle (needle.length - 1) rest
      ([], first :: others)
    else
      let (first, others) := piecesFrom needle 0 rest
      (c :: first, others)

/-- The first piece of a text and those that follow an occurrence of the needle. -/
def pieces (needle text : List Char) : List Char × List (List Char) :=
  piecesFrom needle 0 text

def occurrences (needle text : List Char) : Nat :=
  (pieces needle text).2.length

def replace (needle new text : List Char) : List Char :=
  let (first, others) := pieces needle text
  first ++ others.flatMap (new ++ ·)

/-- The parts of a text between the occurrences of a character. -/
def split (mark : Char) : List Char → List (List Char)
  | [] => [[]]
  | c :: rest =>
    if c = mark then [] :: split mark rest
    else
      match split mark rest with
      | [] => [[c]]
      | part :: parts => (c :: part) :: parts

end SageEditor.Text

/-
Lowercasing of text.

* `lowercaseChar` — the small form of one character, as one or two characters;
* `lowercase` — the small form of a text, in which a capital sigma at the end of a word becomes
  the final sigma `ς`.

Design notes: whether a sigma is final depends on its neighbours: some cased character stands
before it and none after it, where case-ignorable characters (accents, apostrophes) are looked
through.
-/
import SageEditor.Text.Casing

namespace SageEditor.Text

/-- The distance to the small letter, for a code point inside the run. -/
def CaseRun.shift? (run : CaseRun) (n : Nat) : Option Int :=
  if run.first ≤ n && n ≤ run.last && (n - run.first) % run.stride == 0 then some run.shift else none

/-- The small form of one character: itself for a character that has none. -/
def lowercaseChar (c : Char) : List Char :=
  -- The only capital whose small form has two characters.
  if c == 'İ' then ['i', '\u0307']
  else
    match lowercaseRuns.findSome? (·.shift? c.toNat) with
    | some shift => [Char.ofNat (c.toNat + shift).toNat]
    | none => [c]

/-- Whether the first character that is not case-ignorable is cased. -/
def beginsCased (cs : List Char) : Bool :=
  match cs.dropWhile fun c => caseIgnorable.contains c.toNat with
  | [] => false
  | c :: _ => cased.contains c.toNat

/-- Lowercases `rest`, where `before` holds the characters to its left, nearest first. -/
def lowercaseAfter (before : List Char) : List Char → List Char
  | [] => []
  | c :: rest =>
    let small :=
      -- At the end of a word: behind a cased character, and with none in front of it.
      if c == 'Σ' then if beginsCased before && !beginsCased rest then ['ς'] else ['σ']
      else lowercaseChar c
    small ++ lowercaseAfter (c :: before) rest

/-- The small form of a text. -/
def lowercase (s : String) : String :=
  String.ofList (lowercaseAfter [] s.toList)

end SageEditor.Text

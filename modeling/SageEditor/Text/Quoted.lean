/-
Text in double quotes, as messages show it.

* `quoted` — the text between double quotes, with every character that would not show as itself
  written as an escape.
-/
import SageEditor.Text.Mark
import SageEditor.Text.Printable

namespace SageEditor.Text

def quotedChar (c : Char) : String :=
  match c with
  | '\x00' => "\\0"
  | '\t' => "\\t"
  | '\r' => "\\r"
  | '\n' => "\\n"
  | '"' => "\\\""
  | '\\' => "\\\\"
  | ' ' => " "
  | _ =>
    if isAttached c || unprintable.contains c.toNat then
      "\\u\x7b" ++ String.ofList (Nat.toDigits 16 c.toNat) ++ "\x7d"
    else c.toString

/-- A text in double quotes: marks and unprintable characters are given by number. -/
def quoted (s : String) : String :=
  "\"" ++ s.foldl (fun shown c => shown ++ quotedChar c) "" ++ "\""

end SageEditor.Text

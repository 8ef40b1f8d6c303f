/-
Domains: the names of hosts.

* `Domain.toAscii?` — the form of a domain in ASCII, by which hosts are known.

Design notes: a domain is folded and composed before it is cut at its dots, since other characters
fold to dots.  If any of its labels runs from right to left, all of them must run one way.
-/
import SageEditor.Url.Label

namespace SageEditor.Domain

/-- The labels of a domain as they are read. -/
def labels? (domain : List Char) : Option (List (List Char)) := do
  let folded ← domain.mapM Url.fold?
  (Text.split '.' (Text.normal folded.flatten)).mapM Label.read?

def toAscii? (domain : List Char) : Option (List Char) := do
  let labels ← labels? domain
  if labels.all Label.isWellFormed &&
      (labels.all Label.runsOneWay || !(labels.any (·.any Label.turns))) then
    return ['.'].intercalate (← labels.mapM Label.toAscii?)
  else none

end SageEditor.Domain

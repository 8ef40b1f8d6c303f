/-
Hosts.

* `Host` — a domain or an address;
* `Host.parse` — the host that a text denotes where a host is required to be one;
* `Host.parseOpaque` — the same where any text will do;
* `Host.text` — how a host is written.

Design notes: a domain is decoded and put into ASCII as `Domain.toAscii?` says.  One whose last
label is a number has to be an address of four bytes, and only a text in square brackets is an
address of eight groups.
-/
import SageEditor.Url.Domain
import SageEditor.Url.Percent

namespace SageEditor

inductive UrlError where
  | emptyHost
  | invalidDomain
  | invalidPort
  | invalidAddress4
  | invalidAddress6
  | invalidHostCharacter
  | relative
deriving DecidableEq, Repr

def UrlError.message : UrlError → String
  | .emptyHost => "empty host"
  | .invalidDomain => "invalid international domain name"
  | .invalidPort => "invalid port number"
  | .invalidAddress4 => "invalid IPv4 address"
  | .invalidAddress6 => "invalid IPv6 address"
  | .invalidHostCharacter => "invalid domain character"
  | .relative => "relative URL without a base"

inductive Host where
  | domain (name : List Char)
  | address4 (n : Nat)
  | address6 (groups : List Nat)
deriving DecidableEq, Repr

namespace Host

/-! ### Addresses of four bytes -/

/-- The value of digits in a base, if all of them are digits of it. -/
def valueIn (base : Nat) (ds : List Char) : Option Nat :=
  ds.foldlM (fun n c => do
    let d ← Json.Read.hexValue? c
    if d < base then some (n * base + d) else none) 0

/-- A number in decimal, octal after a zero or hexadecimal after `0x`. -/
def number? : List Char → Option Nat
  | [] => none
  | '0' :: 'x' :: ds | '0' :: 'X' :: ds => valueIn 16 ds
  | '0' :: d :: ds => valueIn 8 (d :: ds)
  | ds => valueIn 10 ds

/-- The labels of a domain, without an empty one at its end. -/
def labels (domain : List Char) : List (List Char) :=
  let parts := Text.split '.' domain
  if 1 < parts.length && parts.getLast? = some [] then parts.dropLast else parts

def endsInNumber (domain : List Char) : Bool :=
  match (labels domain).getLast? with
  | none | some [] => false
  | some last =>
    last.all Char.isDigit ||
      match last with
      | '0' :: 'x' :: ds | '0' :: 'X' :: ds => (valueIn 16 ds).isSome
      | _ => false

/-- The address of up to four numbers, the last of which fills all remaining bytes. -/
def address4? (domain : List Char) : Option Nat := do
  let numbers ← (labels domain).mapM number?
  let last ← numbers.getLast?
  let leading := numbers.dropLast
  if 3 < leading.length || leading.any (255 < ·) then none
  else if pow2 (8 * (4 - leading.length)) ≤ last then none
  else some (leading.zipIdx.foldr (fun (n, i) total => n * pow2 (8 * (3 - i)) + total) last)

def address4Text (n : Nat) : List Char :=
  let bytes := [n / 0x1000000, n / 0x10000 % 256, n / 256 % 256, n % 256]
  ['.'].intercalate (bytes.map (Nat.toDigits 10))

/-! ### Addresses of eight groups -/

/-- A group of up to four hexadecimal digits. -/
def group? (ds : List Char) : Option Nat :=
  if ds.isEmpty || 4 < ds.length then none else valueIn 16 ds

/-- A byte in decimal, without leading zeros. -/
def byte? (ds : List Char) : Option Nat := do
  if ds.isEmpty || (1 < ds.length && ds.head? = some '0') then none
  let n ← valueIn 10 ds
  if n ≤ 255 then some n else none

/-- Two groups given as four bytes. -/
def dottedGroups? (ds : List Char) : Option (List Nat) :=
  match (Text.split '.' ds).mapM byte? with
  | some [a, b, c, d] => some [256 * a + b, 256 * c + d]
  | _ => none

/-- Groups between colons; the last may be given as bytes if `dotted`. -/
def groups? (dotted : Bool) (ds : List Char) : Option (List Nat) :=
  if ds.isEmpty then some []
  else
    let parts := Text.split ':' ds
    match parts.getLast? with
    | none => some []
    | some last => do
      let front ← parts.dropLast.mapM group?
      let back ← if dotted && last.contains '.' then dottedGroups? last else (group? last).map ([·])
      return front ++ back

/-- The parts before and after the first two colons in a row. -/
def splitDouble : List Char → Option (List Char × List Char)
  | [] => none
  | ':' :: ':' :: rest => some ([], rest)
  | c :: rest => (splitDouble rest).map fun (before, after) => (c :: before, after)

/-- The eight groups of an address, in which two colons stand for groups that are zero. -/
def address6? (ds : List Char) : Option (List Nat) := do
  match splitDouble ds with
  | none =>
    let all ← groups? true ds
    if all.length = 8 then some all else none
  | some (before, after) =>
    let front ← groups? false before
    let back ← groups? true after
    -- The two colons stand for one group at least.
    if front.length + back.length ≤ 7 then
      some (front ++ List.replicate (8 - front.length - back.length) 0 ++ back)
    else none

/-- The first of the longest runs of at least two zeros: where it begins and how long it is. -/
def longestZeros (groups : List Nat) : Option (Nat × Nat) :=
  let runs := (List.range groups.length).map fun i =>
    (i, ((groups.drop i).takeWhile (· == 0)).length)
  -- A later run has to be longer to be chosen.
  let best := runs.foldl (fun best run => if best.2 < run.2 then run else best) (0, 1)
  if 1 < best.2 then some best else none

def address6Text (groups : List Nat) : List Char :=
  let written (gs : List Nat) : List Char := [':'].intercalate (gs.map (Nat.toDigits 16))
  match longestZeros groups with
  | none => '[' :: written groups ++ [']']
  | some (i, n) => '[' :: written (groups.take i) ++ [':', ':'] ++ written (groups.drop (i + n)) ++ [']']

/-! ### Hosts as text -/

def isForbidden (c : Char) : Bool :=
  ['\x00', '\t', '\n', '\r', ' ', '#', '/', ':', '<', '>', '?', '@', '[', '\\', ']', '^', '|'].contains c

def isForbiddenInDomain (c : Char) : Bool :=
  isForbidden c || Percent.isControl c || c == '%'

/-- An address in square brackets, after the opening one. -/
def parseBracketed (ds : List Char) : Except UrlError Host :=
  if ds.getLast? ≠ some ']' then .error .invalidAddress6
  else
    match address6? ds.dropLast with
    | some groups => .ok (.address6 groups)
    | none => .error .invalidAddress6

def parse : List Char → Except UrlError Host
  | '[' :: ds => parseBracketed ds
  | cs => do
    let some decoded := Text.Utf8.decode? (Percent.decode cs) | throw .invalidDomain
    let some name := Domain.toAscii? decoded.toList | throw .invalidDomain
    if name.any isForbiddenInDomain then throw .invalidDomain
    if name.isEmpty then throw .emptyHost
    if endsInNumber name then
      match address4? name with
      | some n => return .address4 n
      | none => throw .invalidAddress4
    return .domain name

/-- The host that a text denotes where any text will do. -/
def parseOpaque : List Char → Except UrlError Host
  | '[' :: ds => parseBracketed ds
  | cs =>
    if cs.any isForbidden then .error .invalidHostCharacter
    else .ok (.domain (Percent.encode Percent.isControl cs))

def text : Host → List Char
  | domain name => name
  | address4 n => address4Text n
  | address6 groups => address6Text groups

end Host

end SageEditor

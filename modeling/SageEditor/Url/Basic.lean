/-
URLs.

* `Url` — a URL in its parts, all in their normal form;
* `Url.parse` — the URL that a text denotes;
* `Url.text` — how it is written;
* `Url.toFilePath?` — the path of a local file.

Design notes: blanks around a URL and tabulators and line ends inside it do not count, except that
one of them behind the letter of a drive ends that step.  Dot segments are carried out while the
path is read; a segment that looks like the letter of a drive is never removed by them.  Schemes
that require a host know one spelling more of the separator, the backslash.
-/
import SageEditor.File.Path
import SageEditor.Url.Host

namespace SageEditor

/-- What a URL says about where a resource is served. -/
structure Authority where
  /-- The encoded name and password of a user, with the separator that follows them. -/
  user : List Char
  host : Option Host
  port : Option Nat
deriving DecidableEq, Repr

/-- The path of a URL: steps, each behind a separator, or any text. -/
inductive UrlPath where
  | steps (segments : List (List Char))
  | plain (cs : List Char)
deriving DecidableEq, Repr

structure Url where
  scheme : List Char
  authority : Option Authority
  path : UrlPath
  query : Option (List Char)
  fragment : Option (List Char)
deriving DecidableEq, Repr

namespace Url

/-! ### Schemes -/

/-- The families of schemes that are read differently. -/
inductive SchemeKind where
  | file
  | hosted
  | other
deriving DecidableEq, Repr

def fileScheme : List Char := "file".toList

/-- The schemes that require a host, with the port that is understood. -/
def hostedSchemes : List (List Char × Nat) :=
  [("http".toList, 80), ("https".toList, 443), ("ws".toList, 80), ("wss".toList, 443),
    ("ftp".toList, 21)]

def SchemeKind.ofScheme (scheme : List Char) : SchemeKind :=
  if scheme = fileScheme then file
  else if hostedSchemes.any (·.1 = scheme) then hosted
  else other

def SchemeKind.isSeparator (kind : SchemeKind) (c : Char) : Bool :=
  c == '/' || (kind != .other && c == '\\')

def isSchemeChar (c : Char) : Bool :=
  c.isAlphanum || c == '+' || c == '-' || c == '.'

/-- Tabulators and line ends, which do not count inside a URL. -/
def isInnerBlank (c : Char) : Bool := c == '\t' || c == '\n' || c == '\r'

def solid (cs : List Char) : List Char := cs.filter (!isInnerBlank ·)

/-- The scheme of a text, with small letters, and what follows its colon. -/
def scheme? (cs : List Char) : Option (List Char × List Char) :=
  let inScheme (c : Char) : Bool := isSchemeChar c || isInnerBlank c
  match cs.dropWhile inScheme with
  | ':' :: rest =>
    let name := solid (cs.takeWhile inScheme)
    -- A text that begins with no letter is relative, whatever colon is in it.
    if name.head?.any Char.isAlpha then some (name.map Char.toLower, rest) else none
  | _ => none

/-! ### Paths -/

def splitPath (kind : SchemeKind) (cs : List Char) : List (List Char) :=
  Text.split '/' (cs.map fun c => if kind.isSeparator c then '/' else c)

/-- Whether a segment is the letter of a drive with its colon or bar. -/
def isDriveLetter : List Char → Bool
  | [c, mark] => c.isAlpha && (mark == ':' || mark == '|')
  | _ => false

/-- A drive with a colon behind its letter. -/
def normalDrive : List Char → List Char
  | c :: _ => [c, ':']
  | [] => []

/-- A segment in which encoded dots are dots. -/
def plainDots : List Char → List Char
  | '%' :: '2' :: 'e' :: rest | '%' :: '2' :: 'E' :: rest => '.' :: plainDots rest
  | c :: rest => c :: plainDots rest
  | [] => []

/-- Whether a step begins like the path of a drive, for which a backslash can end the letter. -/
def beginsWithDrive : List Char → Bool
  | c :: mark :: rest => isDriveLetter [c, mark] && (rest.isEmpty || rest.head? = some '\\')
  | _ => false

/-- The steps above the last one, where the letter of a drive stays. The last step comes first. -/
def leave : List (List Char) → List (List Char)
  | [] => []
  | last :: above => if beginsWithDrive last then last :: above else above

/-- What follows the first `count` characters that count. -/
def dropSolid : (count : Nat) → List Char → List Char
  | 0, cs => cs
  | _ + 1, [] => []
  | count + 1, c :: rest =>
    if isInnerBlank c then dropSolid (count + 1) rest else dropSolid count rest

/-- The letter of a drive that a blank ends, and the characters behind it. -/
def brokenDrive? (segment : List Char) : Option (List Char × List Char) :=
  match solid segment with
  | c :: ':' :: d :: more =>
    if c.isAlpha && ((dropSolid 2 segment).head?.any isInnerBlank) then some ([c, ':'], d :: more)
    else none
  | _ => none

/-- Carries out the segments of a path; `above` holds the steps so far, the last one first. Also
tells whether the path begins with a drive. -/
def walk (kind : SchemeKind) (above : List (List Char)) (drive : Bool) :
    List (List Char) → List (List Char) × Bool
  | [] => (above.reverse, drive)
  | segment :: rest =>
    let stay (above : List (List Char)) : List (List Char) :=
      -- A path that ends in dots ends with a separator.
      if rest.isEmpty then [] :: above else above
    -- Only the first step of a file can be the letter of a drive.
    let first := kind = .file && above.isEmpty
    let written := solid segment
    let dots := plainDots written
    match if first then brokenDrive? segment else none with
    | some (letter, more) =>
      walk kind (Percent.encode Percent.inPath more :: letter :: above) drive rest
    | none =>
      if dots = ['.', '.'] then walk kind (stay (leave above)) drive rest
      else if dots = ['.'] then walk kind (stay above) drive rest
      else
        let step := Percent.encode Percent.inPath written
        if first && isDriveLetter step then walk kind [normalDrive step] true rest
        else walk kind (step :: above) drive rest

def stepsOf (kind : SchemeKind) (cs : List Char) : List (List Char) :=
  (walk kind [] false (splitPath kind cs)).1

/-- The steps of the path of a file below some others, and whether it begins with a drive. Empty
steps at its start do not count. -/
def fileSteps (above : List (List Char)) (cs : List Char) : List (List Char) × Bool :=
  let (steps, drive) := walk .file above false (splitPath .file cs)
  match steps.dropWhile List.isEmpty with
  | [] => ([[]], drive)
  | steps => (steps, drive)

/-! ### Authorities -/

/-- The text up to the last at sign and the text behind it. -/
def splitUser (cs : List Char) : Option (List Char × List Char) :=
  if cs.contains '@' then
    let host := (cs.reverse.takeWhile (· != '@')).reverse
    some (cs.take (cs.length - host.length - 1), host)
  else none

/-- The encoded name and password of a user, with the separator that follows them. -/
def userText (cs : List Char) : List Char :=
  let name := Percent.encode Percent.inUser (cs.takeWhile (· != ':'))
  let password := Percent.encode Percent.inUser ((cs.dropWhile (· != ':')).drop 1)
  let both := if password.isEmpty then name else name ++ ':' :: password
  if both.isEmpty then [] else both ++ ['@']

/-- The length of a host at the start of a text; a colon in square brackets belongs to it. -/
def hostLength (bracketed : Bool) : List Char → Nat
  | [] => 0
  | c :: rest =>
    if c = ':' && !bracketed then 0
    else hostLength (c = '[' || (bracketed && c != ']')) rest + 1

/-- The port at the start of a text, which goes up to a backslash or to the end. -/
def port? (usual : Option Nat) (cs : List Char) : Except UrlError (Option Nat × List Char) :=
  let digits := cs.takeWhile Char.isDigit
  let rest := cs.dropWhile Char.isDigit
  if !(rest.head?.all (· == '\\')) then .error .invalidPort
  else
    match digits, Host.valueIn 10 digits with
    | [], _ | _, none => .ok (none, rest)
    -- The port that the scheme implies is left out.
    | _, some n =>
      if 65535 < n then .error .invalidPort else .ok (if usual = some n then none else some n, rest)

/-- Reads the authority and the path of a URL that is not of a file. -/
def parseHosted (kind : SchemeKind) (scheme body : List Char) :
    Except UrlError (Authority × List (List Char)) := do
  let isEnd (c : Char) : Bool := kind.isSeparator c
  let authority := body.takeWhile (!isEnd ·)
  let path := body.dropWhile (!isEnd ·)
  let (user, hostAndPort) ←
    match splitUser authority with
    | none => pure ([], authority)
    | some (user, rest) =>
      if user.isEmpty && rest.isEmpty && !path.isEmpty then throw .emptyHost
      else pure (userText user, rest)
  let length := hostLength false hostAndPort
  let hostText := hostAndPort.take length
  let afterHost := hostAndPort.drop length
  if kind = .hosted && hostText.isEmpty then throw .emptyHost
  let host ← if kind = .hosted then Host.parse hostText else Host.parseOpaque hostText
  if hostText.isEmpty && (!afterHost.isEmpty || !user.isEmpty) then throw .emptyHost
  let (port, afterPort) ←
    match afterHost with
    | ':' :: rest => port? ((hostedSchemes.find? (·.1 = scheme)).map (·.2)) rest
    | rest => pure (none, rest)
  let path := afterPort ++ path
  let steps :=
    match path with
    | [] => if kind = .hosted then [[]] else []
    | c :: rest => if kind.isSeparator c then stepsOf kind rest else stepsOf kind path
  return (⟨user, if hostText.isEmpty then none else some host, port⟩, steps)

/-- Reads the host and the path behind the two separators of a file's URL. The letter of a drive
is no host, and a path that begins with a drive has none. Without a host the separator in front
of the path is an empty step. -/
def parseFileHost (rest : List Char) : Except UrlError (Option Host × List (List Char)) := do
  let isSeparator := SchemeKind.file.isSeparator
  let hostText := solid (rest.takeWhile (!isSeparator ·))
  let path := (rest.dropWhile (!isSeparator ·)).drop 1
  if isDriveLetter hostText then return (none, (fileSteps [] rest).1)
  else if hostText.isEmpty then return (none, (fileSteps [[]] path).1)
  else
    let host ← Host.parse hostText
    if host = .domain "localhost".toList then return (none, (fileSteps [[]] path).1)
    else
      let (steps, drive) := fileSteps [] path
      return (if drive then none else some host, steps)

def parseFile (body : List Char) : Except UrlError (Option Host × List (List Char)) :=
  let isSeparator := SchemeKind.file.isSeparator
  match body.dropWhile isInnerBlank with
  | [] => .ok (none, (fileSteps [] []).1)
  | c :: afterFirst =>
    if isSeparator c then
      match afterFirst.dropWhile isInnerBlank with
      | [] => .ok (none, (fileSteps [] []).1)
      | d :: afterSecond =>
        if isSeparator d then parseFileHost afterSecond
        else .ok (none, (fileSteps [] afterFirst).1)
    else .ok (none, (fileSteps [] body).1)

/-! ### Whole URLs -/

/-- The text before a character, and what follows it if it is there. -/
def cut (mark : Char) (cs : List Char) : List Char × Option (List Char) :=
  match cs.dropWhile (· != mark) with
  | [] => (cs, none)
  | _ :: rest => (cs.takeWhile (· != mark), some rest)

/-- Blanks and control characters, which do not count around a URL. -/
def isOuterBlank (c : Char) : Bool := c ≤ ' '

def trim (s : String) : List Char :=
  ((s.toList.dropWhile isOuterBlank).reverse.dropWhile isOuterBlank).reverse

def parse (s : String) : Except UrlError Url := do
  let some (scheme, rest) := scheme? (trim s) | throw .relative
  let kind := SchemeKind.ofScheme scheme
  let (rest, fragment) := cut '#' rest
  let (body, query) := cut '?' rest
  let query := query.map fun q =>
    Percent.encode (if kind = .other then Percent.inQuery else Percent.inHostedQuery) (solid q)
  let fragment := fragment.map fun f => Percent.encode Percent.inFragment (solid f)
  match kind, solid body with
  | .file, _ =>
    let (host, steps) ← parseFile body
    return ⟨scheme, some ⟨[], host, none⟩, .steps steps, query, fragment⟩
  | .hosted, body =>
    let (authority, steps) ← parseHosted kind scheme (body.dropWhile kind.isSeparator)
    return ⟨scheme, some authority, .steps steps, query, fragment⟩
  | .other, '/' :: '/' :: body =>
    let (authority, steps) ← parseHosted kind scheme body
    return ⟨scheme, some authority, .steps steps, query, fragment⟩
  | .other, '/' :: body => return ⟨scheme, none, .steps (stepsOf kind body), query, fragment⟩
  | .other, body =>
    return ⟨scheme, none, .plain (Percent.encode Percent.isControl body), query, fragment⟩

def authorityText (a : Authority) : List Char :=
  let host := match a.host with
    | none => []
    | some h => h.text
  let port := match a.port with
    | none => []
    | some n => ':' :: Nat.toDigits 10 n
  '/' :: '/' :: a.user ++ host ++ port

/-- A path as it is written. Without an authority it may not look as if it began with one. -/
def pathText (hosted : Bool) : UrlPath → List Char
  | .plain cs => cs
  | .steps segments =>
    let written := segments.flatMap ('/' :: ·)
    match hosted, segments with
    -- Two separators at the start would begin an authority.
    | false, [] :: _ :: _ => '/' :: '.' :: written
    | _, _ => written

def text (u : Url) : String :=
  let authority := match u.authority with
    | none => []
    | some a => authorityText a
  let query := match u.query with
    | none => []
    | some q => '?' :: q
  let fragment := match u.fragment with
    | none => []
    | some f => '#' :: f
  String.ofList
    (u.scheme ++ ':' :: authority ++ pathText u.authority.isSome u.path ++ query ++ fragment)

/-! ### Files -/

/-- A path that ends in the letter of a drive ends with a separator. -/
def closeDrive (bytes : Text.Bytes) : Text.Bytes :=
  match bytes.reverse with
  | mark :: letter :: _ :: _ =>
    if (mark = 0x3a || mark = 0x7c) && (Char.ofNat letter.toNat).isAlpha then
      bytes ++ [Path.separator]
    else bytes
  | _ => bytes

/-- The path of the file that a URL without a host denotes. -/
def toFilePath? (u : Url) : Option Path :=
  match u.authority, u.path with
  | some ⟨_, none, _⟩, .steps segments =>
    some ⟨closeDrive (segments.flatMap fun s => Path.separator :: Percent.decode s)⟩
  | _, _ => none

end Url

end SageEditor

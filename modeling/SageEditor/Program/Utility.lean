/-
Small programs that work on text and files.

* `Call`, `Effect` — what a program is given, and what it makes of it;
* `Utility.run?` — the program of a name.

Design notes: words and texts are bytes, held as characters.  A message begins with the name under
which a program was started; names of files in it are quoted where a shell would need it.
-/
import SageEditor.File.Directory
import SageEditor.Text.Octets

namespace SageEditor.Program

open Text.Octets

def pathOf (cs : List Char) : Path := ⟨toBytes cs⟩

/-- What a program is given. -/
structure Call where
  files : FileSystem
  /-- The name under which the program was started. -/
  name : List Char
  arguments : List (List Char)
  input : List Char
  /-- Whether the input is a file, whose size is known. -/
  isFile : Bool

/-- What a program makes of a call. -/
structure Effect where
  files : FileSystem
  status : Nat
  output : List Char
  errorOutput : List Char
  /-- Whether the input has been read. -/
  readsInput : Bool

/-! ### Messages -/

/-- Whether a character shows in a name without quotes. -/
def isPlainChar (c : Char) : Bool :=
  c.isAlphanum || ['%', '+', ',', '-', '.', '/', ']', '_', '@'].contains c

/-- Whether a name shows without quotes.  Some characters need them only at its start, braces only
if they stand alone. -/
def isPlainName (name : List Char) : Bool :=
  match name with
  | [] => false
  | [c] => isPlainChar c
  | c :: rest =>
    let isInner (d : Char) : Bool := isPlainChar d || d == '\x7b' || d == '\x7d'
    isInner c && rest.all fun d => isInner d || d == '#' || d == '~'

def octalByte (c : Char) : List Char :=
  let n := c.toNat
  '\\' :: [n / 64, n / 8 % 8, n % 8].map Nat.digitChar

/-- Text between single quotes, of which what would not show is given by number. -/
def quoteFrom (escaping : Bool) : List Char → List Char
  | [] => ['\'']
  | c :: rest =>
    let shows := ' ' ≤ c && c < '\x7f'
    let quote := if c = '\'' then ['\'', '\\', '\'', '\''] else [c]
    match escaping, shows with
    | false, true => quote ++ quoteFrom false rest
    | false, false => ['\'', '$', '\''] ++ octalByte c ++ quoteFrom true rest
    | true, false => octalByte c ++ quoteFrom true rest
    | true, true => ['\'', '\''] ++ quote ++ quoteFrom false rest

/-- A name between quotes, which are double where that spares an apostrophe. -/
def quotedName (name : List Char) : List Char :=
  let others := name.filter (· != '\'')
  if others.length < name.length && others.all fun c => isPlainChar c || c == ' ' || c == ':' then
    '"' :: name ++ ['"']
  else '\'' :: quoteFrom false name

/-- A name, between quotes where it needs them. -/
def shownName (name : List Char) : List Char :=
  if isPlainName name then name else quotedName name

def causeText : FileError → String
  | .notPermitted => "Operation not permitted"
  | .notFound => "No such file or directory"
  | .isDirectory => "Is a directory"
  | .notDirectory => "Not a directory"
  | .denied => "Permission denied"
  | .alreadyExists => "File exists"
  | .nameTooLong => "File name too long"
  | .notEmpty => "Directory not empty"
  | .badFormat => "Exec format error"
  | e => e.message

namespace Call

/-- The effect of a program that does nothing yet. -/
def idle (c : Call) : Effect := ⟨c.files, 0, [], [], false⟩

def printing (c : Call) (cs : List Char) : Effect := { c.idle with output := cs }

def message (c : Call) (text : List Char) : List Char :=
  c.name ++ ": ".toList ++ text ++ ['\n']

def hint (c : Call) : List Char :=
  "Try '".toList ++ c.name ++ " --help' for more information.\n".toList

/-- The effect of a program that refuses its arguments. -/
def refuse (c : Call) (text : List Char) : Effect :=
  { c.idle with status := 1, errorOutput := c.message text ++ c.hint }

end Call

namespace Effect

def print (e : Effect) (cs : List Char) : Effect := { e with output := e.output ++ cs }

def fail (e : Effect) (c : Call) (text : List Char) : Effect :=
  { e with status := 1, errorOutput := e.errorOutput ++ c.message text }

/-- Does something to a file; a failure is described. -/
def attempt (e : Effect) (c : Call) (result : FileSystem × Except FileError Unit)
    (describe : FileError → List Char) : Effect :=
  match result with
  | (files, .ok ()) => { e with files }
  | (_, .error cause) => e.fail c (describe cause)

end Effect

/-! ### Options -/

structure Options where
  options : List (Char × List Char)
  operands : List (List Char)

namespace Options

def has (o : Options) (c : Char) : Bool := o.options.any (·.1 == c)

def value? (o : Options) (c : Char) : Option (List Char) := o.options.lookup c

/-- Reads the letters of an option word; some letters take the rest or the next word as value. -/
def letters (plain valued : List Char) : List Char → List (List Char) →
    Except (List Char) (List (Char × List Char) × List (List Char))
  | [], words => .ok ([], words)
  | c :: rest, words =>
    if valued.contains c then
      if !rest.isEmpty then .ok ([(c, rest)], words)
      else
        match words with
        | value :: words => .ok ([(c, value)], words)
        | [] => .error ("option requires an argument -- '".toList ++ [c, '\''])
    else if plain.contains c then do
      let (more, words) ← letters plain valued rest words
      return ((c, []) :: more, words)
    else .error ("invalid option -- '".toList ++ [c, '\''])

/-- Reads options wherever they stand, up to a double dash. -/
def read (plain valued : String) : (bound : Nat) → List (List Char) →
    Except (List Char) Options
  | 0, words => .ok ⟨[], words⟩
  | _, [] => .ok ⟨[], []⟩
  | bound + 1, word :: words =>
    match word with
    | ['-', '-'] => .ok ⟨[], words⟩
    | '-' :: '-' :: _ => .error ("unrecognized option '".toList ++ word ++ ['\''])
    | '-' :: c :: rest => do
      let (found, words) ← letters plain.toList valued.toList (c :: rest) words
      let o ← read plain valued bound words
      return { o with options := found ++ o.options }
    | word => do
      let o ← read plain valued bound words
      return { o with operands := word :: o.operands }

end Options

def withOptions (plain valued : String) (c : Call) (run : Options → Effect) : Effect :=
  match Options.read plain valued (c.arguments.length + 1) c.arguments with
  | .error text => c.refuse text
  | .ok o => run o

/-- The same for a program that has another status when it refuses its options. -/
def withOptionsOr (status : Nat) (plain valued : String) (c : Call) (run : Options → Effect) :
    Effect :=
  match Options.read plain valued (c.arguments.length + 1) c.arguments with
  | .error text => { c.refuse text with status }
  | .ok o => run o

/-- Refuses a call without operands. -/
def needing (c : Call) (o : Options) (run : Effect) : Effect :=
  if o.operands.isEmpty then c.refuse "missing operand".toList else run

/-! ### Text in lines -/

def linesOf (cs : List Char) : List (List Char) :=
  match cs with
  | [] => []
  | c :: rest =>
    if c = '\n' then [] :: linesOf rest
    else
      match rest, linesOf rest with
      | '\n' :: _, _ :: lines => [c] :: lines
      | [], _ => [[c]]
      | _, line :: lines => (c :: line) :: lines
      | _, [] => [[c]]

def unlines (lines : List (List Char)) : List Char := lines.flatMap (· ++ ['\n'])

/-- The input of programs that read files or, without any, their input: the texts in their order,
and the effect of looking for them. -/
def gather (c : Call) (names : List (List Char)) (describe : List Char → FileError → List Char) :
    List (List Char) × Effect :=
  let names := if names.isEmpty then [['-']] else names
  names.foldl (fun (texts, e) name =>
    if name = ['-'] then
      (texts ++ [if e.readsInput then [] else c.input], { e with readsInput := true })
    else
      match e.files.read (pathOf name) with
      | .ok bytes => (texts ++ [ofBytes bytes], e)
      | .error cause => (texts, e.fail c (describe name cause))) ([], c.idle)

def nameAndCause (name : List Char) (cause : FileError) : List Char :=
  shownName name ++ ": ".toList ++ (causeText cause).toList

def cannot (what : String) (name : List Char) (cause : FileError) : List Char :=
  what.toList ++ [' '] ++ quotedName name ++ ": ".toList ++ (causeText cause).toList

def natural? (cs : List Char) : Option Nat :=
  if cs.isEmpty || !cs.all Char.isDigit then none else (String.ofList cs).toNat?

/-! ### The programs -/

def catenate (c : Call) : Effect :=
  withOptions "AbeEnstTuv" "" c fun o =>
    let (texts, e) := gather c o.operands nameAndCause
    let text := texts.flatten
    if o.has 'n' then
      let numbered := (linesOf text).zipIdx.map fun (line, i) =>
        let n := Nat.toDigits 10 (i + 1)
        List.replicate (6 - n.length) ' ' ++ n ++ ['\t'] ++ line
      let body := unlines numbered
      e.print (if text.getLast? = some '\n' then body else body.dropLast)
    else e.print text

/-- A hint at the file whose name looks like options. -/
def hyphenHint (c : Call) : List Char :=
  match c.arguments.find? fun w =>
      w.head? = some '-' && w != ['-'] && c.files.exists? (pathOf w) with
  | none => []
  | some w =>
    let inside := '.' :: '/' :: w
    "Try '".toList ++ c.name ++ [' '] ++ shownName inside ++ "' to remove the file ".toList ++
      quotedName w ++ ".\n".toList

def remove (c : Call) : Effect :=
  match Options.read "fivrRdI" "" (c.arguments.length + 1) c.arguments with
  | .error text =>
    { c.refuse text with errorOutput := c.message text ++ hyphenHint c ++ c.hint }
  | .ok o =>
    let forced := o.has 'f'
    let deep := o.has 'r' || o.has 'R'
    if o.operands.isEmpty && forced then c.idle
    else needing c o <| o.operands.foldl (fun e name =>
      let p := pathOf name
      match e.files.find p with
      | .ok (_, .directory _) =>
        if deep then e.attempt c (e.files.removeAll p) (cannot "cannot remove" name)
        else e.fail c (cannot "cannot remove" name .isDirectory)
      | .error .notFound => if forced then e else e.fail c (cannot "cannot remove" name .notFound)
      | _ => e.attempt c (e.files.remove p) (cannot "cannot remove" name)) c.idle

def removeDirectories (c : Call) : Effect :=
  withOptions "pv" "" c fun o => needing c o <| o.operands.foldl (fun e name =>
    e.attempt c (e.files.removeDirectory (pathOf name)) (cannot "failed to remove" name)) c.idle

/-- Creates files that are not there. -/
def touch (c : Call) : Effect :=
  withOptions "acm" "rdt" c fun o => needing c o <| o.operands.foldl (fun e name =>
    if e.files.exists? (pathOf name) || o.has 'c' then e
    else e.attempt c (e.files.write (pathOf name) []) (cannot "cannot touch" name)) c.idle

def makeDirectories (c : Call) : Effect :=
  withOptions "pv" "m" c fun o => needing c o <| o.operands.foldl (fun e name =>
    let p := pathOf name
    e.attempt c (if o.has 'p' then e.files.makeDirectories p else e.files.makeDirectory p)
      (cannot "cannot create directory" name)) c.idle

/-- The path of a file under its own name in a directory, or the path of another file. -/
def targetOf (files : FileSystem) (source target : List Char) : Path :=
  match files.find (pathOf target) with
  | .ok (_, .directory _) => (pathOf target).inside ⟨((pathOf source).fileName?).getD []⟩
  | _ => pathOf target

/-- Applies a program with sources and a target to each source. -/
def toTarget (c : Call) (o : Options) (act : Effect → List Char → Path → Effect) : Effect :=
  match o.operands.getLast?, o.operands.dropLast with
  | none, _ => c.refuse "missing file operand".toList
  | some only, [] =>
    c.refuse ("missing destination file operand after ".toList ++ quotedName only)
  | some target, sources =>
    sources.foldl (fun e source => act e source (targetOf e.files source target)) c.idle

def moveFiles (c : Call) : Effect :=
  withOptions "finv" "t" c fun o => toTarget c o fun e source target =>
    match e.files.find (pathOf source) with
    | .error cause => e.fail c (cannot "cannot stat" source cause)
    | .ok _ =>
      e.attempt c (e.files.move (pathOf source) target) fun cause =>
        "cannot move ".toList ++ quotedName source ++ " to ".toList ++
          quotedName (ofBytes target.bytes) ++ ": ".toList ++ (causeText cause).toList

def copyAll (files : FileSystem) (source target : Location) : FileSystem :=
  files.nodes.foldr (fun (l, n) files =>
    if source.isPrefixOf l then files.put (target ++ l.drop source.length) n else files) files

def copyFiles (c : Call) : Effect :=
  withOptions "afinprRv" "t" c fun o => toTarget c o fun e source target =>
    match e.files.find (pathOf source) with
    | .error cause => e.fail c (cannot "cannot stat" source cause)
    | .ok (l, .directory _) =>
      if o.has 'r' || o.has 'R' || o.has 'a' then
        match e.files.place target with
        | .ok (.entry dir name _) => { e with files := copyAll e.files l (dir ++ [name]) }
        | _ => e
      else e.fail c ("-r not specified; omitting directory ".toList ++ quotedName source)
    | .ok (_, .file content mode) =>
      let isNew := !e.files.exists? target
      let e := e.attempt c (e.files.write target content)
        (cannot "cannot create regular file" (ofBytes target.bytes))
      if isNew then { e with files := (e.files.setMode target mode).1 } else e

def list (c : Call) : Effect :=
  withOptionsOr 2 "aA1dFr" "" c fun o =>
    let names := if o.operands.isEmpty then [['.']] else o.operands
    let entries (e : Effect) (l : Location) : List (List Char) :=
      let all := (e.files.entries l).map ofBytes
      if o.has 'a' then ['.'] :: ['.', '.'] :: all
      else if o.has 'A' then all
      else all.filter (·.head? != some '.')
    let (e, plain, directories) := names.foldl (fun (e, plain, directories) name =>
      match e.files.find (pathOf name) with
      | .ok (l, .directory _) =>
        if o.has 'd' then (e, plain ++ [name], directories)
        else (e, plain, directories ++ [(name, entries e l)])
      | .ok _ => (e, plain ++ [name], directories)
      | .error cause =>
        ({ e.fail c (cannot "cannot access" name cause) with status := 2 }, plain, directories))
      (c.idle, [], [])
    let blocks := directories.map fun (name, members) =>
      if names.length = 1 then unlines members else name ++ [':', '\n'] ++ unlines members
    let first := if plain.isEmpty then [] else [unlines (plain.mergeSort fun a b => !(b < a))]
    e.print (['\n'].intercalate (first ++ blocks))

/-- The first or last lines or bytes of files. -/
def ends (pick : (count : Nat) → (fromStart : Bool) → List (List Char) → List (List Char))
    (pickBytes : Nat → List Char → List Char) (c : Call) : Effect :=
  let arguments :=
    match c.arguments with
    | ('-' :: d :: ds) :: rest =>
      if d.isDigit && ds.all Char.isDigit then ['-', 'n'] :: (d :: ds) :: rest else c.arguments
    | arguments => arguments
  withOptions "qv" "nc" { c with arguments } fun o =>
    let (texts, e) := gather c o.operands fun name cause =>
      "cannot open ".toList ++ quotedName name ++ " for reading: ".toList ++ (causeText cause).toList
    let wrong : Option (String × List Char) :=
      [("bytes", o.value? 'c'), ("lines", o.value? 'n')].findSome? fun (unit, n) =>
        (n.filter fun n =>
          let n := if n.head?.any ['+', '-'].contains then n.drop 1 else n
          (natural? n).isNone).map (unit, ·)
    if let some (unit, n) := wrong then
      c.idle.fail c ("invalid number of ".toList ++ unit.toList ++ ": ".toList ++ quotedName n)
    else
    let shown (text : List Char) : List Char :=
      match o.value? 'c' with
      | some n => pickBytes ((natural? n).getD 0) text
      | none =>
        let n := (o.value? 'n').getD ['1', '0']
        let (fromStart, n) := match n with
          | '+' :: n => (true, n)
          | '-' :: n => (false, n)
          | n => (false, n)
        let lines := linesOf text
        let picked := pick ((natural? n).getD 0) fromStart lines
        let body := unlines picked
        if text.getLast? != some '\n' && picked.getLast? = lines.getLast? &&
            (picked.length = lines.length || picked.head? != lines.head?) then body.dropLast
        else body
    e.print (texts.flatMap shown)

def head : Call → Effect :=
  ends (fun n _ lines => lines.take n) (fun n text => text.take n)

def tail : Call → Effect :=
  ends (fun n fromStart lines => lines.drop (if fromStart then n - 1 else lines.length - n))
    (fun n text => text.drop (text.length - n))

def wordCount (c : Call) : Effect :=
  withOptions "lwcm" "" c fun o =>
    let isBlank (d : Char) : Bool := d == ' ' || ('\t' ≤ d && d ≤ '\r')
    let words (text : List Char) : Nat :=
      ((text.zip (' ' :: text)).filter fun (d, before) => !isBlank d && isBlank before).length
    let counts (text : List Char) : List Nat :=
      let all := [('l', text.count '\n'), ('w', words text), ('c', text.length)]
      let chosen := all.filter fun (d, _) => o.has d || d == 'c' && o.has 'm'
      (if chosen.isEmpty then all else chosen).map (·.2)
    let (texts, e) := gather c o.operands nameAndCause
    let digits (n : Nat) : List Char := Nat.toDigits 10 n
    let size := (texts.map List.length).foldr (· + ·) 0
    let width :=
      if (counts []).length = 1 && o.operands.length ≤ 1 then 1
      else if o.operands.isEmpty && !c.isFile then 7 else (digits size).length
    let row (ns : List Nat) (name : List Char) : List Char :=
      let cells := ns.map fun n => List.replicate (width - (digits n).length) ' ' ++ digits n
      [' '].intercalate (cells ++ if name.isEmpty then [] else [name]) ++ ['\n']
    let named := texts.zip (if o.operands.isEmpty then [[]] else o.operands)
    let total := (texts.map counts).foldr (List.zipWith (· + ·)) ((counts []).map fun _ => 0)
    let rows := named.flatMap fun (text, name) => row (counts text) name
    e.print (if 1 < o.operands.length then rows ++ row total "total".toList else rows)

/-- Drops lines that equal the one before them. -/
def dropRepeated : List (List Char) → List (List Char)
  | a :: b :: rest => if a = b then dropRepeated (b :: rest) else a :: dropRepeated (b :: rest)
  | lines => lines

def sort (c : Call) : Effect :=
  withOptionsOr 2 "nruf" "kto" c fun o =>
    let (texts, e) := gather c o.operands fun name cause =>
      "cannot read: ".toList ++ nameAndCause name cause
    if e.status ≠ 0 then { e with status := 2, output := [] }
    else
      let value (line : List Char) : Int :=
        let line := line.dropWhile (· == ' ')
        let (sign, ds) := match line with
          | '-' :: ds => ((-1 : Int), ds)
          | ds => (1, ds)
        sign * ((natural? (ds.takeWhile Char.isDigit)).getD 0 : Nat)
      let before (a b : List Char) : Bool :=
        if o.has 'n' && value a != value b then value a < value b else !(b < a)
      let lines := (texts.flatMap linesOf).mergeSort before
      let lines := if o.has 'r' then lines.reverse else lines
      e.print (unlines (if o.has 'u' then dropRepeated lines else lines))

/-- Leaves out repeated lines. -/
def unique (c : Call) : Effect :=
  withOptions "" "" c fun o =>
    let (texts, e) := gather c o.operands nameAndCause
    e.print (unlines (dropRepeated (texts.flatMap linesOf)))

/-- Copies the input to files. -/
def tee (c : Call) : Effect :=
  withOptions "ai" "" c fun o =>
    let written := o.operands.foldl (fun e name =>
      let p := pathOf name
      let old := match e.files.read p with
        | .ok bytes => if o.has 'a' then bytes else []
        | .error _ => []
      e.attempt c (e.files.write p (old ++ toBytes c.input)) (nameAndCause name)) c.idle
    { written.print c.input with readsInput := true }

/-- Counts from one number to another. -/
def sequence (c : Call) : Effect :=
  let number (w : List Char) : Int :=
    match w with
    | '-' :: ds => -((natural? ds).getD 0 : Nat)
    | ds => ((natural? ds).getD 0 : Nat)
  let from_ (first step last : Int) : Effect :=
    let count := if step = 0 then 0 else ((last - first).fdiv step + 1).toNat
    c.printing (unlines ((List.range count).map fun i =>
      (toString (first + step * Int.ofNat i)).toList))
  let isNumber (w : List Char) : Bool :=
    (natural? (if w.head? = some '-' then w.drop 1 else w)).isSome
  match c.arguments.find? (!isNumber ·), c.arguments.map number with
  | some w, _ => c.refuse ("invalid floating point argument: ".toList ++ quotedName w)
  | none, [last] => from_ 1 1 last
  | none, [first, last] => from_ first 1 last
  | none, [first, step, last] => from_ first step last
  | none, _ => c.refuse "missing operand".toList

def withoutSlashes (cs : List Char) : List Char :=
  let shorter := (cs.reverse.dropWhile (· == '/')).reverse
  if shorter.isEmpty && !cs.isEmpty then ['/'] else shorter

/-- The last step of a path, without an ending. -/
def baseName (c : Call) : Effect :=
  let base (cs : List Char) : List Char :=
    let cs := withoutSlashes cs
    if cs = ['/'] then cs else (cs.reverse.takeWhile (· != '/')).reverse
  withOptions "z" "" c fun o => match o.operands with
  | [] => c.refuse "missing operand".toList
  | [p] => c.printing (base p ++ ['\n'])
  | p :: ending :: _ =>
    let name := base p
    let name :=
      if ending.isSuffixOf name && name != ending then name.take (name.length - ending.length)
      else name
    c.printing (name ++ ['\n'])

/-- The path before its last step. -/
def directoryName (c : Call) : Effect :=
  let directory (cs : List Char) : List Char :=
    let cs := withoutSlashes cs
    if cs.contains '/' then withoutSlashes ((cs.reverse.dropWhile (· != '/')).reverse) else ['.']
  withOptions "z" "" c fun o => needing c o (c.printing (unlines (o.operands.map directory)))

/-- The permission bits that a mode asks for, given the old ones. -/
def newMode? (old : Nat) (mode : List Char) : Option Nat :=
  if !mode.isEmpty && mode.all (fun c => '0' ≤ c && c ≤ '7') then
    some (mode.foldl (fun n c => 8 * n + (c.toNat - '0'.toNat)) 0)
  else
    let who := mode.takeWhile ['u', 'g', 'o', 'a'].contains
    let classes := (if who.contains 'u' then 0o100 else 0) + (if who.contains 'g' then 0o10 else 0) +
      (if who.contains 'o' then 1 else 0)
    let classes := if who.isEmpty || who.contains 'a' then 0o111 else classes
    match mode.drop who.length with
    | sign :: letters =>
      if !letters.all ['r', 'w', 'x'].contains then none
      else
        let bits := (if letters.contains 'r' then 4 else 0) + (if letters.contains 'w' then 2 else 0) +
          (if letters.contains 'x' then 1 else 0)
        let change := classes * bits
        match sign with
        | '+' => some (old ||| change)
        | '-' => some (old - (old &&& change))
        | '=' => some ((old - (old &&& (classes * 7))) ||| change)
        | _ => none
    | [] => none

def changeMode (c : Call) : Effect :=
  match c.arguments with
  | [] => c.refuse "missing operand".toList
  | [mode] => c.refuse ("missing operand after ".toList ++ quotedName mode)
  | mode :: names =>
    names.foldl (fun e name =>
      match e.files.find (pathOf name) with
      | .error cause => e.fail c (cannot "cannot access" name cause)
      | .ok (_, n) =>
        match newMode? n.mode mode with
        | none => e.fail c ("invalid mode: ".toList ++ quotedName mode)
        | some bits => e.attempt c (e.files.setMode (pathOf name) bits)
            (cannot "changing permissions of" name)) c.idle

/-- The characters of a set, in which a dash stands between the ends of a range. -/
def members : List Char → List Char
  | a :: '-' :: b :: rest =>
    (List.range (b.toNat + 1 - a.toNat)).map (fun i => Char.ofNat (a.toNat + i)) ++ members rest
  | '\\' :: 'n' :: rest => '\n' :: members rest
  | '\\' :: 't' :: rest => '\t' :: members rest
  | '\\' :: '\\' :: rest => '\\' :: members rest
  | c :: rest => c :: members rest
  | [] => []

/-- Replaces or deletes characters of the input. -/
def replaceCharacters (c : Call) : Effect :=
  withOptions "ds" "" c fun o =>
    let printing (cs : List Char) : Effect := { c.printing cs with readsInput := true }
    match o.operands.map members, o.operands with
    | set :: new :: _, _ =>
      let filled := new ++ List.replicate (set.length - new.length) (new.getLastD ' ')
      printing (c.input.map fun d => ((set.zip filled).lookup d).getD d)
    | [set], only :: _ =>
      if o.has 'd' then printing (c.input.filter (!set.contains ·))
      else
        let problem := "missing operand after ".toList ++ quotedName only
        let rule := "Two strings must be given when translating.\n".toList
        { c.refuse problem with errorOutput := c.message problem ++ rule ++ c.hint }
    | _, _ => c.refuse "missing operand".toList

/-- Waits, which takes no time here. -/
def sleep (c : Call) : Effect :=
  withOptions "" "" c fun o => needing c o <|
    let isTime (w : List Char) : Bool :=
      let w := if w.getLast?.any ['s', 'm', 'h', 'd'].contains then w.dropLast else w
      w.any Char.isDigit && w.all fun d => d.isDigit || d == '.'
    match o.operands.find? (!isTime ·) with
    | some w => c.refuse ("invalid time interval ".toList ++ quotedName w)
    | none => c.idle

namespace Utility

def all : List (String × (Call → Effect)) := [
  ("true", Call.idle),
  ("false", fun c => { c.idle with status := 1 }),
  ("echo", fun c =>
    match c.arguments with
    | ['-', 'n'] :: rest => c.printing ([' '].intercalate rest)
    | arguments => c.printing ([' '].intercalate arguments ++ ['\n'])),
  ("cat", catenate), ("rm", remove), ("rmdir", removeDirectories), ("touch", touch),
  ("mkdir", makeDirectories), ("mv", moveFiles), ("cp", copyFiles), ("ls", list), ("head", head),
  ("tail", tail), ("wc", wordCount), ("sort", sort), ("uniq", unique), ("tee", tee),
  ("seq", sequence), ("basename", baseName), ("dirname", directoryName), ("chmod", changeMode),
  ("tr", replaceCharacters), ("sleep", sleep)]

def run? (name : String) : Option (Call → Effect) := all.lookup name

def names : List String := all.map (·.1)

end Utility

end SageEditor.Program

/-
The commands that a shell carries out itself.

* `Builtin.run?` — the command of a name, other than those that run further commands.

Design notes: a command reports what is wrong with its words under its own name.  If it is one of
the special commands this ends the shell; any other one has the status 2.
-/
import SageEditor.Program.Executable
import SageEditor.Shell.Condition
import SageEditor.Shell.Fields
import SageEditor.Shell.Printing
import SageEditor.Shell.Reader
import SageEditor.Shell.State

namespace SageEditor.Shell

open Program (pathOf)
open Text.Octets

/-! ### Signals -/

def signals : List (String × Nat) := [
  ("EXIT", 0), ("HUP", 1), ("INT", 2), ("QUIT", 3), ("ILL", 4), ("TRAP", 5), ("ABRT", 6),
  ("BUS", 7), ("FPE", 8), ("KILL", 9), ("USR1", 10), ("SEGV", 11), ("USR2", 12), ("PIPE", 13),
  ("ALRM", 14), ("TERM", 15), ("STKFLT", 16), ("CHLD", 17), ("CONT", 18), ("STOP", 19),
  ("TSTP", 20), ("TTIN", 21), ("TTOU", 22), ("URG", 23), ("XCPU", 24), ("XFSZ", 25),
  ("VTALRM", 26), ("PROF", 27), ("WINCH", 28), ("IO", 29), ("PWR", 30), ("SYS", 31)]

def signal? (w : List Char) : Option Nat :=
  match Program.natural? w with
  | some n => if n < 65 then some n else none
  | none => signals.lookup (String.ofList (w.map Char.toUpper))

def signalName (n : Nat) : String :=
  ((signals.find? (·.2 == n)).map (·.1)).getD (toString n)

/-- Whether a signal leaves a process alone that does nothing about it. -/
def isHarmless (n : Nat) : Bool := [0, 17, 18, 19, 20, 21, 22, 23, 28].contains n

/-- What a shell says about a program that a signal has ended. -/
def signalText (n : Nat) : Option String :=
  [(1, "Hangup"), (3, "Quit"), (4, "Illegal instruction"), (5, "Trace/breakpoint trap"),
    (6, "Aborted"), (7, "Bus error"), (8, "Floating point exception"), (9, "Killed"),
    (10, "User defined signal 1"), (11, "Segmentation fault"), (12, "User defined signal 2"),
    (14, "Alarm clock"), (15, "Terminated")].lookup n

namespace Builtin

/-- Reports what is wrong with the words of a command. -/
def refuse (name : List Char) (text : List Char) : Action Unit := do
  let text := name ++ ": ".toList ++ text
  if specialBuiltins.contains (String.ofList name) then abort text
  else
    complain text
    setStatus 2

/-- The number of loops, words or an exit status that a word is; nothing if it is none. -/
def number? (name : List Char) (w : List Char) : Action (Option Nat) := do
  match Program.natural? w with
  | some n => return some n
  | none =>
    refuse name ("Illegal number: ".toList ++ w)
    return none

/-- The letters of the options at the start of some words, and the words after them. -/
def splitOptions (allowed : List Char) :
    List (List Char) → Except Char (List Char × List (List Char))
  | [] => .ok ([], [])
  | word :: rest =>
    match word with
    | ['-', '-'] => .ok ([], rest)
    | '-' :: c :: cs =>
      match (c :: cs).find? (!allowed.contains ·) with
      | some wrong => .error wrong
      | none => do
        let (letters, words) ← splitOptions allowed rest
        return (c :: cs ++ letters, words)
    | word => .ok ([], word :: rest)

def withOptions (name allowed : String) (words : List (List Char))
    (act : List Char → List (List Char) → Action Unit) : Action Unit :=
  match splitOptions allowed.toList words with
  | .error c => refuse name.toList ("Illegal option -".toList ++ [c])
  | .ok (letters, words) => act letters words

/-! ### How a script goes on -/

/-- Ends loops or their rounds. -/
def leaveLoops (name : List Char) (jump : Nat → Jump) (words : List (List Char)) :
    Action Unit := do
  match ← number? name (words.headD ['1']) with
  | none => return
  | some 0 => refuse name "Illegal number: 0".toList
  | some n =>
    let depth := (← get).loopDepth
    setStatus 0
    if 0 < depth then setJump (jump (min n depth))

/-- Ends a shell or a function with a status. -/
def leave (name : List Char) (jump : Jump) (words : List (List Char)) : Action Unit := do
  match words with
  | [] => setJump jump
  | w :: _ =>
    match ← number? name w with
    | none => return
    | some n =>
      setStatus n
      setJump jump

/-- Drops arguments. -/
def shift (words : List (List Char)) : Action Unit := do
  match ← number? "shift".toList (words.headD ['1']) with
  | none => return
  | some n =>
    let s ← get
    if s.arguments.length < n then refuse "shift".toList "can't shift that many".toList
    else set { s with arguments := s.arguments.drop n, status := 0 }

/-! ### Options -/

/-- The letters of the options, in the order in which they are shown, with their names. -/
def optionNames : List (Char × String) := [
  ('u', "nounset"), ('b', "notify"), ('a', "allexport"), ('C', "noclobber"), ('E', "emacs"),
  ('V', "vi"), ('v', "verbose"), ('x', "xtrace"), ('s', "stdin"), ('n', "noexec"),
  ('m', "monitor"), ('i', "interactive"), ('I', "ignoreeof"), ('f', "noglob"), ('e', "errexit")]

/-- Sets or clears an option; nothing if there is none of this letter. -/
def setOption? (s : State) (on : Bool) (c : Char) : Option State :=
  if (optionNames.lookup c).isNone then none
  else
    let chosen := if on then c :: s.options else s.options.filter (· != c)
    some { s with options := (optionNames.map (·.1)).filter chosen.contains }

/-- Sets the options of a word, after its sign. -/
def setOptions (on : Bool) : List Char → State → Except Char State
  | [], s => .ok s
  | c :: rest, s =>
    match setOption? s on c with
    | none => .error c
    | some s => setOptions on rest s

def set_ (words : List (List Char)) : Action Unit := do
  setStatus 0
  options (words.length + 1) words
where
  /-- Reads the words of options. -/
  options : (bound : Nat) → List (List Char) → Action Unit
    | 0, _ => return
    | _, [] => return
    | bound + 1, word :: rest => do
      let replace (arguments : List (List Char)) : Action Unit :=
        modify fun s => { s with arguments }
      match word with
      | ['-', '-'] => replace rest
      | ['-'] => if !rest.isEmpty then replace rest
      | ['-', 'o'] | ['+', 'o'] =>
        match rest with
        | [] => return
        | name :: rest =>
          match optionNames.find? fun (_, n) => n == String.ofList name with
          | none => refuse "set".toList ("Illegal option -o ".toList ++ name)
          | some (c, _) =>
            modify fun s => (setOption? s (word.head? == some '-') c).getD s
            options bound rest
      | '-' :: letters | '+' :: letters =>
        match setOptions (word.head? == some '-') letters (← get) with
        | .error c => refuse "set".toList ("Illegal option ".toList ++ ['-', c])
        | .ok s =>
          set s
          options bound rest
      | word => replace (word :: rest)

/-! ### Variables -/

/-- Text as a shell reads it, between single quotes. -/
def quoted (cs : List Char) : List Char :=
  '\'' :: cs.flatMap (fun c => if c = '\'' then "'\"'\"'".toList else [c]) ++ ['\'']

/-- Marks variables and sets them. -/
def mark (command : String) (has : Variable → Bool) (set_ : Variable → Variable)
    (words : List (List Char)) : Action Unit := withOptions command "p" words fun _ words => do
  let name := command.toList
  setStatus 0
  if words.isEmpty then
    let s ← get
    let shown := s.bindings.filter fun (_, v) => has v
    for (key, v) in shown.mergeSort fun a b => !(decide (b.1 < a.1)) do
      print (name ++ [' '] ++ key ++
        (match v.value with
          | some value => '=' :: quoted value
          | none => []) ++ ['\n'])
  else
    for word in words do
      let key := word.takeWhile (· != '=')
      if !isName key then
        refuse name (key ++ ": bad variable name".toList)
        return
      if word.length != key.length then assign key (word.drop (key.length + 1))
      if ← hasJump then return
      modify fun s =>
        s.withVariable key (set_ ((s.bindings.lookup key).getD ⟨none, false, false⟩))

def unset (words : List (List Char)) : Action Unit := withOptions "unset" "fv" words fun o words => do
  setStatus 0
  for word in words do
    let s ← get
    if o.getLast? = some 'f' then set { s with functions := s.functions.filter (·.1 ≠ word) }
    else if !isName word then
      refuse "unset".toList (word ++ ": bad variable name".toList)
      return
    else if (s.bindings.lookup word).any (·.isReadOnly) then
      refuse "unset".toList (word ++ ": is read only".toList)
      return
    else set { s with bindings := s.bindings.filter (·.1 ≠ word) }

/-- Lets variables belong to the running function. -/
def makeLocal (words : List (List Char)) : Action Unit := do
  setStatus 0
  for word in words do
    let s ← get
    match s.replaced with
    | [] =>
      refuse "local".toList "not in a function".toList
      return
    | frame :: outer =>
      let name := word.takeWhile (· != '=')
      let frame := if (frame.lookup name).isSome then frame
        else (name, s.bindings.lookup name) :: frame
      set { s with replaced := frame :: outer }
      if word.length != name.length then assign name (word.drop (name.length + 1))

/-- Text with its backslashes carried out, where each one quotes the next character. -/
def unquote : List Char → Field
  | '\\' :: '\n' :: rest => unquote rest
  | '\\' :: c :: rest => (c, true) :: unquote rest
  | c :: rest => (c, false) :: unquote rest
  | [] => []

/-- The first line of a text, up to an end that is not quoted, and what follows it. -/
def firstLine (raw : Bool) (read : List Char) : List Char → List Char × Option (List Char)
  | [] => (read.reverse, none)
  | '\n' :: rest => (read.reverse, some rest)
  | '\\' :: c :: rest =>
    if raw then
      if c = '\n' then (('\\' :: read).reverse, some rest)
      else firstLine raw (c :: '\\' :: read) rest
    else firstLine raw (c :: '\\' :: read) rest
  | c :: rest => firstLine raw (c :: read) rest

/-- Leaves out the words by which `read` would ask for its input. -/
def withoutPrompt : List (List Char) → List (List Char)
  | ['-', 'p'] :: _ :: rest => rest
  | ['-', 'r'] :: rest => ['-', 'r'] :: withoutPrompt rest
  | words => words

def read_ (words : List (List Char)) : Action Unit :=
    withOptions "read" "r" (withoutPrompt words) fun o words => do
  let raw := o.contains 'r'
  if words.isEmpty then
    refuse "read".toList "arg count".toList
    return
  match words.find? (!isName ·) with
  | some word =>
    refuse "read".toList (word ++ ": bad variable name".toList)
    return
  | none => pure ()
  let s ← get
  let (line, rest) := firstLine raw [] (ofBytes (s.input 0))
  set { s.withInput 0 (toBytes (rest.getD [])) with status := if rest.isSome then 0 else 1 }
  let line := line.filter (· != '\x00')
  let field : Field := if raw then line.map (·, false) else unquote line
  let found := fieldsUpTo s.separators words.length field
  for (name, i) in words.zipIdx do
    assign name (found.getD i [])

/-- Where the next option stands: the number of its word, and its place in it. -/
abbrev OptionPlace := Nat × Nat

/-- Gives the name of an option and where the next one stands. -/
def giveOption (name result : List Char) (next : OptionPlace) (status : Nat) : Action Unit := do
  assign "OPTIND".toList (toString next.1).toList
  assign name result
  modify fun s => { s with optionPlace := next.2, status }

/-- Reports an option that is wrong; a silent one is given as it is. -/
def reportOption (name : List Char) (silent : Bool) (result : Char) (text : String) (c : Char)
    (next : OptionPlace) : Action Unit := do
  giveOption name [if silent then result else '?'] next 0
  if silent then assign "OPTARG".toList [c]
  else
    modify fun s => { s with bindings := s.bindings.filter (·.1 ≠ "OPTARG".toList) }
    modify fun s => s.write 2 (toBytes (text.toList ++ [c, '\n']))

/-- Reads the option at a place of a word that has options. -/
def readOption (letters name : List Char) (all : List (List Char)) (index place : Nat)
    (word : List Char) : Action Unit := do
  let c := word.getD place '?'
  let silent := letters.head? = some ':'
  let next : OptionPlace := if word.length ≤ place + 1 then (index + 1, 0) else (index, place + 1)
  match letters.dropWhile (· != c) with
  | ':' :: _ | [] => reportOption name silent '?' "Illegal option -" c next
  | _ :: ':' :: _ =>
    if next.2 ≠ 0 then
      giveOption name [c] (index + 1, 0) 0
      assign "OPTARG".toList (word.drop (place + 1))
    else
      match all[index]? with
      | some value =>
        giveOption name [c] (index + 2, 0) 0
        assign "OPTARG".toList value
      | none => reportOption name silent ':' "No arg for -" c (index + 1, 0)
  | _ =>
    giveOption name [c] next 0
    assign "OPTARG".toList []

/-- Reads the next option of some words. -/
def nextOption (words : List (List Char)) : Action Unit := do
  match words with
  | letters :: name :: given =>
    let s ← get
    let all := if given.isEmpty then s.arguments else given
    let index := max 1 (((s.valueOf? "OPTIND".toList).bind Program.natural?).getD 1)
    match all[index - 1]? with
    | none => giveOption name ['?'] (index, 0) 1
    | some word =>
      if 0 < s.optionPlace then readOption letters name all index s.optionPlace word
      else if word = ['-', '-'] then giveOption name ['?'] (index + 1, 0) 1
      else if word.head? != some '-' || word = ['-'] then giveOption name ['?'] (index, 0) 1
      else readOption letters name all index 1 word
  | _ => refuse "getopts".toList "Usage: getopts optstring var [arg...]".toList

/-! ### Directories -/

def currentPath (files : FileSystem) : List Char :=
  '/' :: ofBytes (Path.join files.current)

def changeDirectory (words : List (List Char)) : Action Unit :=
    withOptions "cd" "LP" words fun _ words => do
  let s ← get
  let (target, shows) :=
    match words with
    | [] => ((s.valueOf? "HOME".toList).getD [], false)
    | ['-'] :: _ => ((s.valueOf? "OLDPWD".toList).getD (currentPath s.files), true)
    | w :: _ => (w, false)
  let found := if target.isEmpty then some (s.files.current, Node.directory 0)
    else (s.files.find (pathOf target)).toOption
  match found with
  | some (l, .directory _) =>
    set { s with files := { s.files with current := l }, status := 0 }
    assign "OLDPWD".toList (currentPath s.files)
    assign "PWD".toList (currentPath (← get).files)
    if shows then print (currentPath (← get).files ++ ['\n'])
  | _ => refuse "cd".toList ("can't cd to ".toList ++ target)

/-! ### Signals -/

/-- Says what signals lead to. -/
def trap (words : List (List Char)) : Action Unit := withOptions "trap" "" words fun _ words => do
  setStatus 0
  match words with
  | [] =>
    for (n, action) in (← get).traps.mergeSort fun a b => a.1 ≤ b.1 do
      print ("trap -- ".toList ++ quoted action ++ [' '] ++ (signalName n).toList ++ ['\n'])
  | first :: others =>
    let (action, conditions) : Option (List Char) × List (List Char) :=
      if others.isEmpty then (none, [first])
      else if first = ['-'] then (none, others)
      else if (Program.natural? first).isSome then (none, words)
      else (some first, others)
    for condition in conditions do
      match signal? condition with
      | none =>
        modify fun s => s.write 2 (toBytes ("trap: ".toList ++ condition ++ ": bad trap\n".toList))
        setStatus 1
        return
      | some n =>
        modify fun s =>
          let others := s.traps.filter (·.1 ≠ n)
          { s with traps := match action with
              | some action => (n, action) :: others
              | none => others }

/-- Names the signal of a number or of the status of a process that it has ended. -/
def nameSignal (w : List Char) : Action Unit := do
  match ← number? "kill".toList w with
  | none => return
  | some n =>
    print ((signalName (if 128 < n then n - 128 else n)).toList ++ ['\n'])
    setStatus 0

def kill (words : List (List Char)) : Action Unit := do
  if let ['-', 'l'] :: w :: _ := words then return ← nameSignal w
  let (sent, processes) : Option Nat × List (List Char) :=
    match words with
    | ['-', 's'] :: name :: rest => (signal? name, rest)
    | ['-', '-'] :: rest => (some 15, rest)
    | ('-' :: name) :: rest => (signal? name, rest)
    | rest => (some 15, rest)
  match sent, processes with
  | none, _ =>
    match words with
    | ['-', 's'] :: name :: _ =>
      refuse "kill".toList ("invalid signal number or name: ".toList ++ name)
    | word :: _ => refuse "kill".toList ("Illegal option ".toList ++ word.take 2)
    | [] => return
  | _, [] =>
    refuse "kill".toList
      "Usage: kill [-s sigspec | -signum | -sigspec] [pid | job]... or\nkill -l [exitstatus]".toList
  | some n, processes =>
    setStatus 0
    for process in processes do
      let s ← get
      match Program.natural? process with
      | none => refuse "kill".toList ("Illegal number: ".toList ++ process)
      | some p =>
        if p = s.process then
          if n ≠ 0 then set { s with pending := s.pending ++ [n] }
        else
          complain "kill: No such process\n".toList
          setStatus 1

/-- Waits for processes in the background, which have ended already. -/
def wait (words : List (List Char)) : Action Unit := do
  match words.getLast? with
  | none => setStatus 0
  | some w =>
    let jobs := (← get).jobs
    setStatus (((Program.natural? w).bind fun n => jobs.lookup n).getD 127)

/-! ### Aliases -/

/-- Shows aliases or lets names stand for texts. -/
def alias_ (words : List (List Char)) : Action Unit := do
  setStatus 0
  let s ← get
  let show_ (key value : List Char) : Action Unit := print (key ++ '=' :: quoted value ++ ['\n'])
  if words.isEmpty then
    for (key, value) in s.aliases do show_ key value
  for word in words do
    let key := word.takeWhile (· != '=')
    if key.length < word.length && !key.isEmpty then
      modify fun s => { s with
        aliases := (key, word.drop (key.length + 1)) :: s.aliases.filter (·.1 ≠ key) }
    else
      match (← get).aliases.lookup word with
      | some value => show_ word value
      | none =>
        modify fun s => s.write 2 (toBytes ("alias: ".toList ++ word ++ " not found\n".toList))
        setStatus 1

/-- Lets names stand for themselves. -/
def unalias (words : List (List Char)) : Action Unit := withOptions "unalias" "a" words fun o words => do
  setStatus 0
  if o.contains 'a' then modify fun s => { s with aliases := [] }
  for word in words do
    if ((← get).aliases.lookup word).isSome then
      modify fun s => { s with aliases := s.aliases.filter (·.1 ≠ word) }
    else
      modify fun s => s.write 2 (toBytes ("unalias: ".toList ++ word ++ " not found\n".toList))
      setStatus 1

/-- Limits the size of files.  Only the limit that leaves no room in any file is kept; all others
are taken for none. -/
def limit (words : List (List Char)) : Action Unit := do
  if words = ["-f".toList, "0".toList] then
    modify fun s => { s with files := { s.files with capacity := some 0 } }
  else print "unlimited\n".toList
  setStatus 0

/-! ### Commands -/

/-- The commands that are no special ones. -/
def regular : List String :=
  ["[", "alias", "bg", "cd", "command", "echo", "false", "fg", "getopts", "hash", "jobs", "kill",
    "printf", "pwd", "read", "test", "true", "type", "ulimit", "umask", "unalias", "wait"]

/-- Says what names stand for, in words if `verbose`. -/
def describe (verbose : Bool) (names : List (List Char)) : Action Unit := do
  setStatus 0
  for name in names do
    let s ← get
    let text := String.ofList name
    let say (short long : List Char) : Action Unit :=
      print ((if verbose then name ++ " is ".toList ++ long else short) ++ ['\n'])
    let isPath := name.contains '/'
    if reservedWords.contains text then say name "a shell keyword".toList
    else if specialBuiltins.contains text then say name "a special shell builtin".toList
    else if (s.functions.lookup name).isSome then say name "a shell function".toList
    else if regular.contains text then say name "a shell builtin".toList
    else
      let found := if isPath then (s.files.find (pathOf name)).toOption.map fun _ => name
        else (Program.search s.files s.searchList name).toOption
      match found with
      | some path => say path path
      | none =>
        if verbose then modify fun s => s.write 1 (toBytes (name ++ ": not found\n".toList))
        setStatus 127

def printf (words : List (List Char)) : Action Unit := do
  match words with
  | [] | [['-', '-']] => refuse "printf".toList "usage: printf format [arg ...]".toList
  | ['-', '-'] :: format :: words => write format words
  | ('-' :: c :: _) :: _ => refuse "printf".toList ("Illegal option -".toList ++ [c])
  | format :: words => write format words
where
  /-- Writes words in a format and reports the problems. -/
  write (format : List Char) (words : List (List Char)) : Action Unit := do
    let p := printfText format words
    print p.written.reverse
    setStatus (if p.refused then 2 else if p.problems.isEmpty then 0 else 1)
    for problem in p.problems.reverse do
      complain ("printf: ".toList ++ problem)

def test (name : List Char) (words : List (List Char)) : Action Unit := do
  match Condition.holds (← get).files words with
  | .ok outcome => setStatus (if outcome then 0 else 1)
  | .error problem => refuse name problem

/-- The command of a name, other than those that run further commands. -/
def run? (name : List Char) (words : List (List Char)) : Option (Action Unit) :=
  match String.ofList name with
  | ":" | "true" | "hash" | "jobs" | "times" => some (setStatus 0)
  | "alias" => some (alias_ words)
  | "unalias" => some (unalias words)
  | "bg" | "fg" => some (refuse name "No current job".toList)
  | "false" => some (setStatus 1)
  | "echo" => some do
    print (echoText words)
    setStatus 0
  | "printf" => some (printf words)
  | "test" => some (test name words)
  | "[" => some do
    if words.getLast? = some [']'] then test name words.dropLast
    else refuse name "missing ]".toList
  | "cd" => some (changeDirectory words)
  | "pwd" => some <| withOptions "pwd" "LP" words fun _ _ => do
    print (currentPath (← get).files ++ ['\n'])
    setStatus 0
  | "exit" => some (leave name .endShell words)
  | "return" => some do
    leave name (if 0 < (← get).callDepth then .endFunction else .endShell) words
  | "break" => some (leaveLoops name .endLoops words)
  | "continue" => some (leaveLoops name .nextRound words)
  | "shift" => some (shift words)
  | "set" => some (set_ words)
  | "export" => some (mark "export" (·.isExported) (fun v => { v with isExported := true }) words)
  | "readonly" => some (mark "readonly" (·.isReadOnly) (fun v => { v with isReadOnly := true }) words)
  | "unset" => some (unset words)
  | "local" => some (makeLocal words)
  | "read" => some (read_ words)
  | "getopts" => some (nextOption words)
  | "trap" => some (trap words)
  | "kill" => some (kill words)
  | "wait" => some (wait words)
  | "type" => some (describe true words)
  | "umask" => some do
    if words.isEmpty then print "0022\n".toList
    setStatus 0
  | "ulimit" => some (limit words)
  | _ => none

end Builtin

end SageEditor.Shell

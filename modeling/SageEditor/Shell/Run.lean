/-
Running shell scripts and other programs.

* `Shell.run` — what a command makes of a state;
* `Shell.runProgram` — the same for a program that is built in, among them the shell itself.

Design notes: words are expanded from left to right, then files are opened, and then the command
runs: a special command of the shell, a function, another command of the shell or a program.  What
runs in a process of its own leaves files, open streams and its status behind, and nothing else.
A script can start the command line tools again through the number of the process that runs it.
Every function is given a bound on the depth of its calls, so that every run has a result.
-/
import SageEditor.CommandLine.Tools
import SageEditor.Shell.Builtin
import SageEditor.Shell.Pattern

namespace SageEditor.Shell

open Program (pathOf)
open Text.Octets

/-! ### Processes -/

/-- The state in which a shell starts: three streams, and no arguments. -/
def State.start (files : FileSystem) (name : List Char) (input : Text.Bytes) : State where
  files := files
  bindings := [
    ("HOME", "/root"), ("PATH", String.ofList Program.searchList),
    ("PWD", String.ofList (Builtin.currentPath files))].map fun (key, value) =>
      (key.toList, ⟨some value.toList, true, false⟩)
  functions := []
  aliases := []
  name := name
  arguments := []
  status := 0
  streams := [.source false input, .sink [], .sink []]
  descriptors := [(0, 0), (1, 1), (2, 2)]
  traps := []
  options := []
  line := 0
  nextLine := 1
  jump := none
  loopDepth := 0
  callDepth := 0
  replaced := []
  process := Program.toolsProcess
  lastJob := none
  jobs := []
  pending := []
  substituted := none
  optionPlace := 0
  cannotWrite := false

/-- The files that a process leaves: a change of directory and a limit stay its own. -/
def filesAfter (outer inner : FileSystem) : FileSystem :=
  { inner with current := outer.current, capacity := outer.capacity }

/-- What is left of a process when it has ended: a signal that it has sent to the shell still
arrives. -/
def afterProcess (outer inner : State) : State :=
  { outer with
    files := filesAfter outer.files inner.files
    streams := inner.streams
    status := inner.status % 256
    pending := inner.pending
    jump := match inner.jump with
      | some (.killed n) => if inner.process = outer.process then some (.killed n) else outer.jump
      | _ => outer.jump }

/-- Runs something in a process of its own. -/
def isolated (act : Action Unit) : Action Unit := do
  let outer ← get
  -- Only the shell that set it runs the command for its end.
  set { outer with loopDepth := 0, traps := outer.traps.filter (·.1 ≠ 0) }
  act
  modify (afterProcess outer)

/-- Ends the shell if it is to end at the first failure. -/
def checkStatus (tested : Bool) : Action Unit := do
  let s ← get
  if !tested && s.status ≠ 0 && s.hasOption 'e' && s.jump.isNone then setJump .endShell

def goesOn : Action Bool := do
  let s ← get
  match s.jump with
  | none => return true
  | some (.nextRound n) =>
    set { s with jump := if n ≤ 1 then none else some (.nextRound (n - 1)) }
    return n ≤ 1
  | some (.endLoops n) =>
    set { s with jump := if n ≤ 1 then none else some (.endLoops (n - 1)) }
    return false
  | _ => return false

def outcomeOf (s : State) : Outcome where
  code :=
    match s.jump with
    | some (.killed _) => none
    | _ => some (s.status % 256)
  stdout := s.writtenTo 1
  stderr := s.writtenTo 2

/-- Starts a program with one argument, given how programs run. -/
def launchBy (run : Program.Started → Action Unit) : Launcher := fun fs program argument => do
  if program.contains 0 || argument.contains 0 then throw .zeroInData
  let started ← Program.start fs Program.searchList [ofBytes program, ofBytes argument]
  let (_, s) := (run started).run (State.start fs [] [])
  return (filesAfter fs s.files, outcomeOf s)

/-- Runs the command line tools with arguments, given how programs run.  A command line that is
refused changes nothing. -/
def performTools (run : Program.Started → Action Unit) (arguments : List (List Char)) :
    Action Unit := do
  match Tool.ofArguments? (arguments.map fun w => Text.Utf8.decodeLossy (toBytes w)) with
  | none => setStatus 2
  | some tool =>
    let s ← get
    let (files, report) := tool.perform (launchBy run) s.files
    let s := { s with files, status := report.code }
    let s := s.write 1 (Text.Utf8.encode report.stdout)
    set (s.write 2 (Text.Utf8.encode report.stderr))

/-! ### Parameters -/

def argumentGlyphs (s : State) (joined quoted : Bool) : List Glyph :=
  if joined && quoted then
    let separator := (s.separators.head?.map fun c => [c]).getD []
    glyphsOf (separator.intercalate s.arguments) true
  else [Glyph.boundary].intercalate (s.arguments.map (glyphsOf · quoted))

/-- The directory that a tilde at the start of a word stands for. -/
def withHome (s : State) (w : ShellWord) : ShellWord :=
  match w with
  | .text ('~' :: cs) false :: rest =>
    -- A tilde stands for a directory only if a slash or the end of the word follows it.
    if cs.isEmpty && !rest.isEmpty || !(cs.isEmpty || cs.head? = some '/') then w
    else
      match s.valueOf? "HOME".toList with
      | none => w
      | some home => .text home true :: .text cs false :: rest
  | w => w

/-! ### Names of files -/

/-- The paths that fit patterns for their steps, after a beginning. -/
def matchSteps (files : FileSystem) (front : List Char) : List Field → List (List Char)
  | [] => [front]
  | [] :: rest => matchSteps files (front ++ ['/']) rest
  | step :: rest =>
    let pattern := Pattern.ofGlyphs step
    let literal := step.map (·.1)
    let further (name : List Char) : List (List Char) :=
      let path := front ++ name
      match rest with
      | [] => if files.exists? (pathOf path) then [path] else []
      | rest =>
        match files.find (pathOf path) with
        | .ok (_, .directory _) => matchSteps files (path ++ ['/']) rest
        | _ => []
    if !Pattern.isProper pattern then further (pattern.map fun
      | .one c => c
      | _ => '?')
    else
      match files.find (pathOf (if front.isEmpty then ['.'] else front)) with
      | .ok (l, .directory _) =>
        -- Names that begin with a dot are found only by patterns that begin with one.
        let hidden := literal.head? = some '.'
        let names := (if hidden then [['.'], ['.', '.']] else []) ++
          (files.entries l).map ofBytes
        (names.filter fun name => (name.head? = some '.') == hidden && pattern.accepts name).flatMap
          further
      | _ => []

def stepsOf : Field → List Field
  | [] => [[]]
  | (c, quoted) :: rest =>
    if c = '/' then [] :: stepsOf rest
    else
      match stepsOf rest with
      | [] => [[(c, quoted)]]
      | step :: steps => ((c, quoted) :: step) :: steps

/-- The names of files that a field stands for, or its text if it is no pattern or fits none. -/
def namesOf (s : State) (field : Field) : List (List Char) :=
  let text := field.map (·.1)
  if s.hasOption 'f' || !Pattern.isProper (Pattern.ofGlyphs field) then [text]
  else
    let found :=
      match stepsOf field with
      -- Two slashes at the start count as one.
      | [] :: [] :: rest => matchSteps s.files ['/'] rest
      | [] :: rest => matchSteps s.files ['/'] rest
      | steps => matchSteps s.files [] steps
    if found.isEmpty then [text] else found.mergeSort fun a b => !(decide (b < a))

/-! ### Files -/

def openingProblem (e : FileError) (missing : String) : List Char :=
  match e with
  | .notFound | .notDirectory => missing.toList
  | e => (Program.causeText e).toList

def openForWriting (s : State) (target : List Char) (appends truncates : Bool) :
    Except FileError State := do
  let (l, mode) ← s.files.openForWriting (pathOf target)
  let s :=
    if truncates || (s.files.node? l).isNone then
      { s with files := s.files.put l (.file [] mode) }
    else s
  return (s.openStream (.file l 0 appends)).2

/-- Applies a redirection to an expanded target, and tells whether that went well. -/
def redirectTo (descriptor : Nat) (kind : RedirectKind) (target : List Char) : Action Bool := do
  let s ← get
  let attach (result : Except FileError State) (problem : FileError → List Char) :
      Action Bool := do
    match result with
    | .ok opened =>
      set (opened.connect descriptor (opened.streams.length - 1))
      return true
    | .error e =>
      complain (problem e)
      return false
  let cannotCreate (e : FileError) : List Char :=
    "cannot create ".toList ++ target ++ ": ".toList ++ openingProblem e "Directory nonexistent"
  let cannotOpen (e : FileError) : List Char :=
    "cannot open ".toList ++ target ++ ": ".toList ++ openingProblem e "No such file"
  match kind with
  | .document => attach (Except.ok (s.openStream (.source false (toBytes target))).2) fun _ => []
  | .input =>
    let opened : Except FileError Text.Bytes :=
      if target = "/dev/null".toList then .ok []
      else match s.files.read (pathOf target) with
        -- A directory can be opened, but nothing can be read from it.
        | .error .isDirectory => .ok []
        | result => result
    attach (opened.map fun bytes => (s.openStream (.source true bytes)).2) cannotOpen
  | .output | .append | .update =>
    match ["/dev/stdin", "/dev/stdout", "/dev/stderr"].idxOf? (String.ofList target) with
    | some n => if let some stream := s.descriptors.lookup n then
        set (s.connect descriptor stream)
        return true
    | none => pure ()
    if target = "/dev/null".toList then attach (Except.ok (s.openStream (.sink [])).2) fun _ => []
    else if kind = .output && s.hasOption 'C' && s.files.exists? (pathOf target) then
      complain ("cannot create ".toList ++ target ++ ": File exists".toList)
      return false
    else
      attach (openForWriting s target (kind == .append) (kind == .output)) cannotCreate
  | .duplicate =>
    if target = ['-'] then
      set (s.disconnect descriptor)
      return true
    match if target.length = 1 then Program.natural? target else none with
    | none =>
      set { s with line := s.nextLine }
      abort "Syntax error: Bad fd number".toList
      return false
    | some n =>
      match s.descriptors.lookup n with
      | some stream =>
        set (s.connect descriptor stream)
        return true
      | none =>
        complain (target ++ ": Bad file descriptor".toList)
        return false

/-! ### Programs that start others -/

/-- Splits the text of one word as `env -S` does. -/
def splitWords (cs : List Char) : List (List Char) :=
  (fields [' ', '\t', '\n'] (cs.map fun c => .char c false true)).map fun f => f.map (·.1)

/-- What `env` is told: whether it starts without variables, which ones it removes and sets, and
the words of the program. -/
structure Environment where
  isEmpty : Bool
  removed : List (List Char)
  values : List (List Char × List Char)
  words : List (List Char)

/-- The variables that `env` sets, and the words after them. -/
def Environment.ofWords (isEmpty : Bool) (removed : List (List Char)) :
    List (List Char) → Environment
  | [] => ⟨isEmpty, removed, [], []⟩
  | word :: rest =>
    let name := word.takeWhile (· != '=')
    if name.length < word.length && !name.isEmpty then
      let e := ofWords isEmpty removed rest
      { e with values := (name, word.drop (name.length + 1)) :: e.values }
    else ⟨isEmpty, removed, [], word :: rest⟩

/-- Reads the options of `env`, or tells what is wrong with them. -/
def Environment.read (isEmpty : Bool) (removed : List (List Char)) : (bound : Nat) →
    List (List Char) → Except (List (List Char)) Environment
  | 0, words => .ok (ofWords isEmpty removed words)
  | bound + 1, words =>
    match words with
    | ['-'] :: rest => .ok (ofWords true removed rest)
    | ['-', '-'] :: rest => .ok (ofWords isEmpty removed rest)
    | ('-' :: '-' :: name) :: _ =>
      .error ["unrecognized option '--".toList ++ name ++ ['\'']]
    | ('-' :: 'S' :: text) :: rest =>
      let (text, rest) := if text.isEmpty then (rest.headD [], rest.drop 1) else (text, rest)
      read isEmpty removed bound (splitWords text ++ rest)
    | ('-' :: 'u' :: name) :: rest =>
      let (name, rest) := if name.isEmpty then (rest.headD [], rest.drop 1) else (name, rest)
      read isEmpty (name :: removed) bound rest
    | ('-' :: c :: more) :: rest =>
      let rest := if more.isEmpty then rest else ('-' :: more) :: rest
      if c = 'i' then read true removed bound rest
      else if c = '0' || c = 'v' then read isEmpty removed bound rest
      else
        .error <| ("invalid option -- '".toList ++ [c, '\'']) ::
          if c = ' ' || c = '\t' then ["use -[v]S to pass options in shebang lines".toList] else []
    | words => .ok (ofWords isEmpty removed words)

/-- The options of a shell: the command of `-c` if there is one, and the words after them. -/
def shellOptions : (bound : Nat) → List (List Char) → (commands : Bool) → State →
    Except Char (Bool × List (List Char) × State)
  | 0, words, commands, s => .ok (commands, words, s)
  | _, [], commands, s => .ok (commands, [], s)
  | bound + 1, word :: words, commands, s =>
    match word with
    | ['-'] | ['-', '-'] => .ok (commands, words, s)
    | '-' :: letters | '+' :: letters => do
      let on := word.head? == some '-'
      let plain := letters.filter fun c => c != 'c' && c != 'l' && c != 'o'
      let s ← Builtin.setOptions on plain s
      if letters.contains 'o' then
        let option := (Builtin.optionNames.find? fun (_, n) =>
          n == String.ofList (words.headD [])).map (·.1)
        shellOptions bound (words.drop 1) (commands || letters.contains 'c')
          ((option.bind (Builtin.setOption? s on)).getD s)
      else shellOptions bound words (commands || letters.contains 'c') s
    | word => .ok (commands, word :: words, s)

def isShell (program : String) : Bool := program == "sh" || program == "dash"

/-! ### Small steps -/

/-- Text without zero bytes, which the shell does not keep. -/
def withoutZeros (cs : List Char) : List Char := cs.filter (· != '\x00')

/-- Lets the shell go on after an error of a command that is no special one. -/
def forgive : Action Unit :=
  modify fun s => { s with jump := if s.jump = some .failed then none else s.jump }

def calculate (text : List Char) : Action (List Char) := do
  let s ← get
  let problem (message : String) : Action (List Char) := do
    abort ("arithmetic expression: ".toList ++ message.toList ++ ": \"".toList ++ text ++ ['"'])
    return []
  match Expression.read text with
  | .error message => problem message
  | .ok e =>
    match e.evaluate s.parameter? (s.hasOption 'u') [] with
    | .error .divisionByZero => problem "division by zero"
    | .error (.noNumber value) =>
      abort ("Illegal number: ".toList ++ value)
      return []
    | .error (.unset name) =>
      abort (name ++ ": parameter not set".toList)
      return []
    | .ok (n, assigned) =>
      for (name, value) in assigned.reverse do
        assign name (toString value).toList
      return (toString n).toList

/-- Shows a command before it runs, if that is asked for. -/
def trace (values : List (List Char × List Char)) (words : List (List Char)) : Action Unit := do
  let s ← get
  if s.hasOption 'x' then
    let shown := values.map (fun (name, value) => name ++ '=' :: value) ++ words
    set (s.write 2 (toBytes ("+ ".toList ++ [' '].intercalate shown ++ ['\n'])))

def assignAll (values : List (List Char × List Char)) : Action Unit := do
  for (name, value) in values do
    if !(← hasJump) then assign name value

/-- Gives variables the values back that they had. -/
def restore (replaced : List (List Char × Option Variable)) (s : State) : State :=
  replaced.foldl (fun s (key, old) =>
    match old with
    | some v => s.withVariable key v
    | none => { s with bindings := s.bindings.filter (·.1 ≠ key) }) s

/-! ### Words, commands and programs -/

mutual

/-- Expands a word.  What stands in place of a parameter is split if `inValue`. -/
def expand (inValue : Bool) (bound : Nat) (w : ShellWord) : Action (List Glyph) :=
  match bound with
  | 0 => return []
  | bound + 1 => do
    match w with
    | [] => return []
    | p :: rest =>
      let gs ← expandPart inValue bound p
      if ← hasJump then return []
      return gs ++ (← expand inValue bound rest)

def expandPart (inValue : Bool) (bound : Nat) (p : Part) : Action (List Glyph) :=
  match bound with
  | 0 => return []
  | bound + 1 => do
    match p with
    | .text cs quoted =>
      -- The mark keeps a quoted text in its place even if it is empty.
      return (if quoted then [.hold] else []) ++
        cs.map fun c => .char c quoted (inValue && !quoted)
    | .substitution body quoted => return glyphsOf (← capture bound body) quoted
    | .arithmetic expression quoted =>
      let text := textOf (← expand false bound expression)
      if ← hasJump then return []
      return glyphsOf (← calculate text) quoted
    | .parameter name use word quoted => expandParameter name use word quoted bound

def expandParameter (name : List Char) (use : ParameterUse) (word : ShellWord) (quoted : Bool)
    (bound : Nat) : Action (List Glyph) :=
  match bound with
  | 0 => return []
  | bound + 1 => do
    let s ← get
    let isList := name = ['@'] || name = ['*']
    let value := s.parameter? name
    let missing (colon : Bool) : Bool := value.isNone || colon && value = some []
    let shown : List Glyph :=
      if isList then argumentGlyphs s (name = ['*']) quoted else glyphsOf (value.getD []) quoted
    let hold : List Glyph := if quoted then [.hold] else []
    let isUnset := value.isNone && !isList && s.hasOption 'u'
    let unsetText := name ++ ": parameter not set".toList
    match use with
    | .unknown =>
      abort "Bad substitution".toList
      return []
    | .value =>
      if isUnset then
        abort unsetText
        return []
      return shown
    | .length =>
      if isUnset then
        abort unsetText
        return []
      let n := if isList then s.arguments.length else (value.getD []).length
      return glyphsOf (toString n).toList quoted
    | .orElse colon =>
      if missing colon then return hold ++ (← expand true bound (withHome s word)) else return shown
    | .andThen colon =>
      if missing colon then return hold else return hold ++ (← expand true bound word)
    | .orAssign colon =>
      if missing colon then
        let text := textOf (← expand false bound (withHome s word))
        if ← hasJump then return []
        if !isName name then
          abort (name ++ ": bad variable name".toList)
          return []
        assign name text
        return glyphsOf text quoted
      else return shown
    | .orFail colon =>
      if missing colon then
        let text := textOf (← expand false bound word)
        if ← hasJump then return []
        abort (name ++ ": ".toList ++
          if word.isEmpty then
            (if colon then "parameter not set or null" else "parameter not set").toList
          else text)
        return []
      else return shown
    | .trimStart longest | .trimEnd longest =>
      if isUnset then
        abort unsetText
        return []
      let pattern := Pattern.ofGlyphs (unsplit (← expand false bound word))
      let trim (cs : List Char) : List Char :=
        match use with
        | .trimStart _ => pattern.trimStart longest cs
        | _ => pattern.trimEnd longest cs
      if isList then
        return argumentGlyphs { s with arguments := s.arguments.map trim } (name = ['*']) quoted
      return glyphsOf (trim (value.getD [])) quoted

/-- What commands write, without line ends behind it. -/
def capture (bound : Nat) (body : List Command) : Action (List Char) :=
  match bound with
  | 0 => return []
  | bound + 1 => do
    let (stream, s) := (← get).openStream (.sink [])
    set s
    let descriptors := s.descriptors
    modify fun s => s.connect 1 stream
    isolated do
      runAll false bound body
      runExitTrap bound
    modify fun s => { s with descriptors, substituted := some s.status }
    let written := withoutZeros (ofBytes ((← get).writtenTo stream))
    return (written.reverse.dropWhile (· == '\n')).reverse

def expandFields (bound : Nat) (w : ShellWord) : Action (List (List Char)) :=
  match bound with
  | 0 => return []
  | bound + 1 => do
    let gs ← expand false bound (withHome (← get) w)
    if ← hasJump then return []
    let s ← get
    return (fields s.separators gs).flatMap (namesOf s)

def expandAll (bound : Nat) (ws : List ShellWord) : Action (List (List Char)) :=
  match bound with
  | 0 => return []
  | bound + 1 => do
    match ws with
    | [] => return []
    | w :: rest =>
      let found ← expandFields bound w
      if ← hasJump then return []
      return found ++ (← expandAll bound rest)

/-- Expands a word to one text. -/
def expandText (bound : Nat) (w : ShellWord) : Action (List Char) :=
  match bound with
  | 0 => return []
  | bound + 1 => do
    return textOf (← expand false bound (withHome (← get) w))

def expandValues (bound : Nat) (assignments : List (List Char × ShellWord)) :
    Action (List (List Char × List Char)) :=
  match bound with
  | 0 => return []
  | bound + 1 => do
    match assignments with
    | [] => return []
    | (name, w) :: rest =>
      let value ← expandText bound w
      if ← hasJump then return []
      let before ← get
      -- Later values see the earlier ones, although nothing is assigned before all are known.
      set (before.withVariable name
        { (before.bindings.lookup name).getD ⟨none, false, false⟩ with value := some value })
      let more ← expandValues bound rest
      modify fun s => { s with bindings := before.bindings }
      return (name, value) :: more

/-- Applies redirections in their order, and tells whether all went well. -/
def redirectAll (bound : Nat) (rs : List Redirect) : Action Bool :=
  match bound with
  | 0 => return true
  | bound + 1 => do
    match rs with
    | [] => return true
    | .mk descriptor kind target :: rest =>
      let text ← expandText bound target
      if ← hasJump then return false
      if ← redirectTo descriptor kind text then redirectAll bound rest else return false

def runAll (tested : Bool) (bound : Nat) (cs : List Command) : Action Unit :=
  match bound with
  | 0 => return
  | bound + 1 => do
    match cs with
    | [] => return
    | c :: rest =>
      run tested bound c
      if ← hasJump then return
      runAll tested bound rest

/-- Runs a command.  A failure of a tested command does not end the shell. -/
def run (tested : Bool) (bound : Nat) (c : Command) : Action Unit :=
  match bound with
  | 0 => return
  | bound + 1 => do
    if (← get).hasOption 'n' then return
    match c with
    | .simple line assignments words redirects =>
      runSimple line assignments words redirects tested bound
      checkStatus tested
    | .sequence [] => setStatus 0
    | .sequence cs => runAll tested bound cs
    | .background body =>
      let s ← get
      let job := s.process + s.jobs.length + 1
      isolated do
        run false bound body
        runExitTrap bound
      modify fun s =>
        { s with lastJob := some job, jobs := (job, s.status) :: s.jobs, status := 0 }
    | .both first second =>
      run true bound first
      if ← hasJump then return
      if (← get).status = 0 then run tested bound second
    | .either first second =>
      run true bound first
      if ← hasJump then return
      if (← get).status ≠ 0 then run tested bound second
    | .negation body =>
      run true bound body
      if ← hasJump then return
      modify fun s => { s with status := if s.status = 0 then 1 else 0 }
    | .pipeline stages =>
      let descriptors := (← get).descriptors
      runStages tested bound stages
      modify fun s => { s with descriptors }
      checkStatus tested
    | .branch condition yes no =>
      run true bound condition
      if ← hasJump then return
      if (← get).status = 0 then run tested bound yes else run tested bound no
    | .loop outcome condition body =>
      modify fun s => { s with loopDepth := s.loopDepth + 1 }
      runLoop outcome condition body tested 0 bound
      modify fun s => { s with loopDepth := s.loopDepth - 1 }
    | .forEach line name words body =>
      modify fun s => { s with line }
      let values ← expandAll bound words
      if ← hasJump then return
      modify fun s => { s with loopDepth := s.loopDepth + 1, status := 0 }
      runFor name values body tested bound
      modify fun s => { s with loopDepth := s.loopDepth - 1 }
    | .choice line subject cases =>
      modify fun s => { s with line }
      let text ← expandText bound subject
      if ← hasJump then return
      runCases text cases tested bound
    | .define name body =>
      modify fun s =>
        { s with functions := (name, body) :: s.functions.filter (·.1 ≠ name), status := 0 }
    | .subshell body =>
      isolated do
        run tested bound body
        runExitTrap bound
      checkStatus tested
    | .redirected line body redirects =>
      modify fun s => { s with line }
      let descriptors := (← get).descriptors
      if ← redirectAll bound redirects then run tested bound body
      else if !(← hasJump) then
        setStatus 2
        checkStatus tested
      modify fun s => { s with descriptors }

/-- Repeats a body as long as a condition has an outcome; `last` is the status so far. -/
def runLoop (outcome : Bool) (condition body : Command) (tested : Bool) (last : Nat)
    (bound : Nat) : Action Unit :=
  match bound with
  | 0 => return
  | bound + 1 => do
    run true bound condition
    if ← hasJump then
      if ← goesOn then runLoop outcome condition body tested last bound
      return
    -- The status of the condition that ends the loop is not that of the loop.
    if ((← get).status == 0) != outcome then setStatus last
    else
      run tested bound body
      if ← goesOn then runLoop outcome condition body tested (← get).status bound

def runFor (name : List Char) (values : List (List Char)) (body : Command) (tested : Bool)
    (bound : Nat) : Action Unit :=
  match bound with
  | 0 => return
  | bound + 1 => do
    match values with
    | [] => return
    | value :: rest =>
      assign name value
      if ← hasJump then return
      run tested bound body
      if ← goesOn then runFor name rest body tested bound

/-- Runs the first case that a text fits. -/
def runCases (text : List Char) (cases : List (List ShellWord × Command)) (tested : Bool)
    (bound : Nat) : Action Unit :=
  match bound with
  | 0 => return
  | bound + 1 => do
    match cases with
    | [] => setStatus 0
    | (patterns, body) :: rest =>
      if ← fitsAny text patterns bound then run tested bound body
      else if !(← hasJump) then runCases text rest tested bound

def fitsAny (text : List Char) (patterns : List ShellWord) (bound : Nat) : Action Bool :=
  match bound with
  | 0 => return false
  | bound + 1 => do
    match patterns with
    | [] => return false
    | w :: rest =>
      let pattern := Pattern.ofGlyphs (unsplit (← expand false bound (withHome (← get) w)))
      if ← hasJump then return false
      if pattern.accepts text then return true
      fitsAny text rest bound

/-- Runs the stages of a pipeline, each of which reads what the one before it has written. -/
def runStages (tested : Bool) (bound : Nat) (stages : List Command) : Action Unit :=
  match bound with
  | 0 => return
  | bound + 1 => do
    match stages with
    | [] => return
    | [last] =>
      isolated do
        run tested bound last
        runExitTrap bound
    | stage :: rest =>
      let descriptors := (← get).descriptors
      let (stream, s) := (← get).openStream (.sink [])
      set (s.connect 1 stream)
      isolated do
        run tested bound stage
        runExitTrap bound
      -- Stages run one after another, so that each finds all of its input.
      if ← hasJump then return
      let (source, s) := (← get).openStream (.source false ((← get).writtenTo stream))
      set ({ s with descriptors }.connect 0 source)
      runStages tested bound rest

def runSimple (line : Nat) (assignments : List (List Char × ShellWord)) (words : List ShellWord)
    (redirects : List Redirect) (tested : Bool) (bound : Nat) : Action Unit :=
  match bound with
  | 0 => return
  | bound + 1 => do
    modify fun s => { s with line, substituted := none }
    let words ← expandAll bound words
    if ← hasJump then return
    let values ← expandValues bound assignments
    if ← hasJump then return
    trace values words
    let descriptors := (← get).descriptors
    let opened ← redirectAll bound redirects
    if ← hasJump then return
    let name := words.headD []
    let special := specialBuiltins.contains (String.ofList name)
    if !opened then
      modify fun s => { s with descriptors, status := 2 }
      if special then setJump .endShell
      return
    match words with
    | [] =>
      modify fun s => { s with status := s.substituted.getD 0 }
      assignAll values
    | name :: arguments =>
      -- What is assigned before a special command stays, and is lost after any other one.
      if special then
        assignAll values
        if !(← hasJump) then runBuiltin name arguments tested bound
      else
        let before ← get
        let replaced := values.map fun (key, _) => (key, before.bindings.lookup key)
        assignAll values
        if !(← hasJump) then
          for (key, _) in values do
            modify fun s => s.withVariable key
              { (s.bindings.lookup key).getD ⟨none, false, false⟩ with isExported := true }
          match before.functions.lookup name with
          | some body => callFunction body arguments tested bound
          | none => runBuiltin name arguments tested bound
          modify (restore replaced)
    -- The redirections of `exec` without a program hold for the rest of the shell.
    let persists := name = "exec".toList && words.length = 1
    if !persists then modify fun s => { s with descriptors }
    runPending bound

def callFunction (body : Command) (arguments : List (List Char)) (tested : Bool) (bound : Nat) :
    Action Unit :=
  match bound with
  | 0 => return
  | bound + 1 => do
    let before ← get
    set { before with
      arguments, replaced := [] :: before.replaced, loopDepth := 0
      callDepth := before.callDepth + 1 }
    run tested bound body
    modify fun s => restore (s.replaced.headD [])
      { s with
        arguments := before.arguments, replaced := before.replaced
        loopDepth := before.loopDepth, callDepth := before.callDepth
        jump := if s.jump = some .endFunction then none else s.jump }

def runBuiltin (name : List Char) (arguments : List (List Char)) (tested : Bool) (bound : Nat) :
    Action Unit :=
  match bound with
  | 0 => return
  | bound + 1 => do
    match String.ofList name with
    | "eval" =>
      setStatus 0
      runText "eval: ".toList tested ([' '].intercalate arguments) bound
    | "." =>
      match arguments with
      | [] => setStatus 0
      | file :: _ => runFile file bound
    | "exec" =>
      if !arguments.isEmpty then
        if (Program.start (← get).files (← get).searchList arguments).isOk then
          modify fun s => { s with traps := [] }
        startProgram "exec: ".toList arguments bound
        if !(← hasJump) then setJump .endShell
      else setStatus 0
    | "command" =>
      match arguments with
      | ['-', 'v'] :: names => Builtin.describe false (names.take 1)
      | ['-', 'V'] :: names => Builtin.describe true names
      | words =>
        match Builtin.splitOptions ['p'] words with
        | .error c => Builtin.refuse name ("Illegal option -".toList ++ [c])
        | .ok (_, []) => setStatus 0
        | .ok (_, name :: arguments) =>
          runBuiltin name arguments tested bound
          forgive
    | text =>
      match Builtin.run? name arguments with
      | none => startProgram [] (name :: arguments) bound
      | some act =>
        modify fun s => { s with cannotWrite := false }
        act
        if (← get).cannotWrite then
          complain (name ++ ": ".toList ++ name ++ ": I/O error".toList)
          modify fun s => { s with status := s.status ||| 1 }
        if !specialBuiltins.contains text then forgive

/-- Runs the commands of a text; a fault in it is reported after a label. -/
def runText (label : List Char) (tested : Bool) (text : List Char) (bound : Nat) : Action Unit :=
  match bound with
  | 0 => return
  | bound + 1 => runLines label tested (Source.ofText (withoutZeros text)) bound

/-- Runs the commands of a source, line by line. -/
def runLines (label : List Char) (tested : Bool) (source : Source) (bound : Nat) : Action Unit :=
  match bound with
  | 0 => return
  | bound + 1 => do
    if source.isFinished then return
    match { source with aliases := (← get).aliases }.nextLine with
    | .error fault =>
      modify fun s => { s with line := if label.isEmpty then fault.line else s.line }
      abort (label ++ "Syntax error: ".toList ++ fault.message.toList)
    | .ok (line, rest) =>
      modify fun s => { s with nextLine := rest.line }
      match line with
      | .sequence [] => pure ()
      | line => run tested bound line
      if ← hasJump then return
      runLines label tested rest bound

def runFile (file : List Char) (bound : Nat) : Action Unit :=
  match bound with
  | 0 => return
  | bound + 1 => do
    let s ← get
    if !file.contains '/' then abort (".: ".toList ++ file ++ ": not found".toList)
    else
      match s.files.read (pathOf file) with
      | .error e =>
        abort (".: cannot open ".toList ++ file ++ ": ".toList ++ openingProblem e "No such file")
      | .ok bytes =>
        set { s with status := 0, callDepth := s.callDepth + 1 }
        runText [] false (ofBytes bytes) bound
        modify fun s => { s with
          callDepth := s.callDepth - 1
          jump := if s.jump = some .endFunction then none else s.jump }

/-- Does what signals lead to that have arrived. -/
def runPending (bound : Nat) : Action Unit :=
  match bound with
  | 0 => return
  | bound + 1 => do
    let s ← get
    match s.pending with
    | [] => return
    | n :: rest =>
      set { s with pending := rest }
      match s.traps.lookup n with
      | some action =>
        -- This one signal can have no command.
        if n = 9 then setJump (.killed n)
        else
          runText [] false action bound
          if !(← hasJump) then setStatus s.status
      | none => if !isHarmless n then setJump (.killed n)
      if !(← hasJump) then runPending bound

/-- Runs the command that the end of the shell leads to. -/
def runExitTrap (bound : Nat) : Action Unit :=
  match bound with
  | 0 => return
  | bound + 1 => do
    let s ← get
    match s.traps.lookup 0, s.jump with
    | none, _ | _, some (.killed _) => return
    | some action, _ =>
      set { s with traps := s.traps.filter (·.1 ≠ 0), jump := none }
      runText [] false action bound
      modify fun t => { t with
        status := if t.jump = some .endShell || t.jump = some .failed then t.status else s.status
        jump := match t.jump with
          | some (.killed n) => some (.killed n)
          | _ => s.jump }

/-- Starts a program from the shell; a label stands before its name in messages. -/
def startProgram (label : List Char) (words : List (List Char)) (bound : Nat) : Action Unit :=
  match bound with
  | 0 => return
  | bound + 1 => do
    let s ← get
    let name := words.headD []
    let refuse (text : String) (status : Nat) : Action Unit := do
      complain (label ++ name ++ ": ".toList ++ text.toList)
      setStatus status
    match Program.start s.files s.searchList words with
    | .ok program =>
      isolated (runProgram program bound)
      match (← get).jump with
      | some (.killed n) =>
        modify fun t => { t with jump := s.jump, status := 128 + n }
        match signalText n with
        | some text => modify fun t => t.write 2 (toBytes (text.toList ++ ['\n']))
        | none => return
      | _ => return
    -- A text whose first line names no interpreter is a script for the shell itself.
    | .error .badFormat =>
      match s.files.read (pathOf name) with
      | .ok content =>
        if (content.takeWhile (· != 0x0a)).contains 0 || content.head? = some 0x7f then
          refuse "Exec format error" 126
        else isolated (runProgram ⟨"sh", "sh".toList :: words⟩ bound)
      | .error _ => refuse "Exec format error" 126
    | .error .notFound | .error .notDirectory =>
      refuse (if name.isEmpty then "Permission denied" else "not found") 127
    | .error e => refuse (Program.causeText e) 126

/-- Runs a program that is built in, in the current state of its process. -/
def runProgram (program : Program.Started) (bound : Nat) : Action Unit :=
  match bound with
  | 0 => return
  | bound + 1 => do
    let s ← get
    let name := program.words.headD []
    if isShell program.program then runShell program.words bound
    else if program.program = "env" then runEnvironment program.words bound
    else if program.program = Program.toolsName then
      performTools (fun started => runProgram started bound) (program.words.drop 1)
    else
      match Program.Utility.run? program.program with
      | none => setStatus 127
      | some utility =>
        let effect := utility
          ⟨s.files, name, program.words.drop 1, ofBytes (s.input 0), s.readsFile 0⟩
        let s := { s with files := effect.files, status := effect.status }
        let s := if effect.readsInput then s.withInput 0 [] else s
        let s := s.write 1 (toBytes effect.output)
        set (s.write 2 (toBytes effect.errorOutput))

/-- Runs `env`, which sets variables and starts a program. -/
def runEnvironment (words : List (List Char)) (bound : Nat) : Action Unit :=
  match bound with
  | 0 => return
  | bound + 1 => do
    let own := words.headD []
    let fail (lines : List (List Char)) (status : Nat) : Action Unit := do
      for line in lines do
        modify fun s => s.write 2 (toBytes (own ++ ": ".toList ++ line ++ ['\n']))
      setStatus status
    -- Every option takes a character or a word away.
    let size := (words.map List.length).foldr (· + ·) words.length
    match Environment.read false [] size (words.drop 1) with
    | .error lines =>
      fail lines 125
      let hint := "Try '".toList ++ own ++ " --help' for more information.\n".toList
      modify fun s => s.write 2 (toBytes hint)
    | .ok e =>
      modify fun s => { s with
        bindings := (e.values.map fun (key, value) => (key, ⟨some value, true, false⟩)) ++
          (if e.isEmpty then [] else s.bindings.filter fun (key, v) =>
            v.isExported && !e.removed.contains key && (e.values.lookup key).isNone) }
      match e.words with
      | [] =>
        for (key, v) in (← get).bindings do
          print (key ++ '=' :: v.value.getD [] ++ ['\n'])
        setStatus 0
      | name :: _ =>
        let list := ((← get).valueOf? "PATH".toList).getD "/bin:/usr/bin".toList
        match Program.start (← get).files list e.words with
        | .ok program => runProgram program bound
        | .error cause =>
          fail [Program.quotedName name ++ ": ".toList ++ (Program.causeText cause).toList]
            (if cause == .notFound || cause == .notDirectory then 127 else 126)

/-- Runs a shell with its words, in the current state of its process. -/
def runShell (words : List (List Char)) (bound : Nat) : Action Unit :=
  match bound with
  | 0 => return
  | bound + 1 => do
    let outer ← get
    let own := words.headD []
    let parent : Variable := ⟨some (toString outer.process).toList, false, false⟩
    let inner : State := { outer with
      bindings := ("PPID".toList, parent) ::
        outer.bindings.filter fun (key, v) => v.isExported && key ≠ "PPID".toList
      functions := [], aliases := [], name := own, arguments := [], status := 0, traps := [], options := []
      line := 0, nextLine := 1, jump := none, loopDepth := 0, callDepth := 0, replaced := []
      -- Far enough from the numbers of the jobs of the outer shell.
      process := outer.process + 1000, lastJob := none, jobs := [], pending := []
      substituted := none, optionPlace := 0 }
    set inner
    match shellOptions (words.length + 1) (words.drop 1) false inner with
    | .error c =>
      abort ("Illegal option -".toList ++ [c])
      setStatus 2
    | .ok (true, [], _) =>
      abort "-c requires an argument".toList
      setStatus 2
    | .ok (true, text :: more, s) =>
      set { s with name := more.headD own, arguments := more.drop 1, line := 1 }
      runText [] false text bound
      runExitTrap bound
    | .ok (false, [], s) =>
      set (s.withInput 0 [])
      runText [] false (ofBytes (s.input 0)) bound
      runExitTrap bound
    | .ok (false, script :: arguments, s) =>
      match s.files.read (pathOf script) with
      | .error .isDirectory => setStatus 0
      | .error e =>
        abort ("cannot open ".toList ++ script ++ ": ".toList ++ openingProblem e "No such file")
        setStatus 2
      | .ok bytes =>
        set { s with name := script, arguments }
        runText [] false (ofBytes bytes) bound
        runExitTrap bound
    let ended ← get
    set { ended with
      process := outer.process, name := outer.name, pending := outer.pending
      bindings := outer.bindings }

end

/-- The deepest calls of a run. -/
def deepest : Nat := 100000

end SageEditor.Shell

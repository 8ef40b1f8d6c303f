/-
Reading shell scripts.

* `Fault` — why a text is no script, and the line where that shows;
* `Source.nextLine` — the commands of the next line of a text.

Design notes: a shell has run the lines before a fault by the time it meets it, so lines are read
one by one; what stands on one line is read as a whole.  Every function is given a bound on the
depth of its calls, which the length of the text gives.  A here document is taken out of the text
where its operator is met, and its line ends are counted when the line of the operator ends.  The
text of an alias is put in front of what follows its name.
-/
import SageEditor.Shell.Syntax

namespace SageEditor.Shell

/-- Why a text is no script. -/
structure Fault where
  line : Nat
  message : String
deriving DecidableEq, Repr

/-- A token.  Of a word it is known whether anything in it is quoted or expanded. -/
inductive Token where
  | finish
  | newline
  | semicolon
  | ampersand
  | andIf
  | orIf
  | bar
  | opening
  | closing
  | endOfCase
  | redirect (descriptor : Nat) (kind : RedirectKind) (stripped : Bool)
  | word (w : ShellWord)

structure Source where
  rest : List Char
  line : Nat
  /-- Line ends that have been taken out of the text behind the current line. -/
  owed : Nat
  /-- A token that has been put back. -/
  pushed : Option Token
  /-- The texts that stand for names at the start of a command. -/
  aliases : List (List Char × List Char)
  /-- The names whose texts are being read, with the length of what follows each text. -/
  replacing : List (List Char × Nat)

/-- Actions that read from a source or find a fault. -/
abbrev Reader := StateT Source (Except Fault)

namespace Reader

def fault {α : Type} (message : String) : Reader α := do
  throw ⟨(← get).line, message⟩

def takeChar : Reader (Option Char) := do
  let s ← get
  match s.rest with
  | [] => return none
  | '\n' :: rest =>
    -- The lines of the documents of this line are passed over together with its end.
    set { s with rest, line := s.line + 1 + s.owed, owed := 0 }
    return some '\n'
  | c :: rest =>
    set { s with rest }
    return some c

def ahead : Reader (List Char) := do
  return (← get).rest

/-- Passes over characters that are no line ends. -/
def skip (n : Nat) : Reader Unit :=
  modify fun s => { s with rest := s.rest.drop n }

/-- Passes over a line that is continued. -/
def skipContinuation : Reader Unit := do
  skip 1
  let _ ← takeChar

def takeWhile (p : Char → Bool) : Reader (List Char) := do
  let taken := (← ahead).takeWhile p
  let lines := taken.count '\n'
  modify fun s => { s with
    rest := s.rest.drop taken.length
    line := if lines = 0 then s.line else s.line + lines + s.owed
    owed := if lines = 0 then s.owed else 0 }
  return taken

def takeMany : Nat → Reader Unit
  | 0 => pure ()
  | n + 1 => do
    let _ ← takeChar
    takeMany n

/-- Puts the text of a name in front of what is to be read, unless that is being read already;
tells whether there is one. -/
def replaceAlias (name : List Char) : Reader Bool := do
  let s ← get
  let size := s.rest.length
  -- A text has been read to its end once less is left than what followed it.
  let replacing := s.replacing.filter fun (_, after) => after ≤ size
  match s.aliases.lookup name, replacing.lookup name with
  | some text, none =>
    set { s with rest := text ++ s.rest, replacing := (name, size) :: replacing }
    return true
  | _, _ => return false

/-- Puts a token back. -/
def push (t : Token) : Reader Unit :=
  modify fun s => { s with pushed := some t }

end Reader

/-! ### Tokens and their names -/

/-- The words that structure commands where a command can begin. -/
def reservedWords : List String :=
  ["!", "case", "do", "done", "elif", "else", "esac", "fi", "for", "if", "in", "then", "until",
    "while", "\x7b", "\x7d"]

def Token.reserved? : Token → Option String
  | .word w =>
    match ShellWord.plain? w with
    | some cs => if reservedWords.contains (String.ofList cs) then some (String.ofList cs) else none
    | none => none
  | _ => none

def quotedName (name : String) : String := "\"" ++ name ++ "\""

/-- What a token is called in messages. -/
def Token.name (t : Token) : String :=
  match t with
  | .finish => "end of file"
  | .newline => "newline"
  | .semicolon => quotedName ";"
  | .ampersand => quotedName "&"
  | .andIf => quotedName "&&"
  | .orIf => quotedName "||"
  | .bar => quotedName "|"
  | .opening => quotedName "("
  | .closing => quotedName ")"
  | .endOfCase => quotedName ";;"
  | .redirect .. => "redirection"
  | .word _ => (t.reserved?.map quotedName).getD "word"

/-- Whether a token ends a list of commands. -/
def Token.endsList (t : Token) : Bool :=
  match t with
  | .finish | .closing | .endOfCase => true
  | t => t.reserved?.any
      ["do", "done", "elif", "else", "esac", "fi", "then", "\x7d"].contains

/-- A token that does not fit. -/
def unexpected {α : Type} (t : Token) : Reader α :=
  Reader.fault s!"{t.name} unexpected"

/-- A token in the place of another one. -/
def unexpectedFor {α : Type} (name expected : String) : Reader α :=
  Reader.fault s!"{name} unexpected (expecting {expected})"

/-! ### Where parts of words stand -/

/-- The surroundings of a part of a word. -/
inductive Surroundings where
  | bare
  | doubleQuotes
  /-- In the braces of a parameter, which itself may be quoted. -/
  | braces (quoted : Bool)
  /-- In an arithmetic expression, inside of some parentheses. -/
  | arithmetic (depth : Nat)
  | document
deriving DecidableEq

namespace Surroundings

/-- Whether the parts are quoted. -/
def quotes : Surroundings → Bool
  | bare | braces false => false
  | _ => true

/-- Whether a backslash takes the meaning of a character away. -/
def escapes (at_ : Surroundings) (c : Char) : Bool :=
  ['$', '\x60', '\\'].contains c ||
    match at_ with
    | bare | braces false => true
    | doubleQuotes => c == '"'
    | braces true => c == '"' || c == '}'
    | arithmetic _ => c == '"'
    | document => false

/-- Whether the parts end before a text. -/
def endBefore (at_ : Surroundings) (cs : List Char) : Bool :=
  match at_, cs with
  | bare, c :: _ => [' ', '\t', '\n', ';', '&', '|', '<', '>', '(', ')'].contains c
  | doubleQuotes, c :: _ => c == '"'
  | braces _, c :: _ => c == '}'
  | arithmetic depth, ')' :: ')' :: _ => depth == 0
  | _, _ => false

def after (at_ : Surroundings) (c : Char) : Surroundings :=
  match at_, c with
  | arithmetic depth, '(' => arithmetic (depth + 1)
  | arithmetic depth, ')' => arithmetic (depth - 1)
  | at_, _ => at_

/-- What is missing where the text ends. -/
def fault? : Surroundings → Option String
  | doubleQuotes | braces true => some "Unterminated quoted string"
  | braces false => some "Missing '\x7d'"
  | arithmetic _ => some "Missing '))'"
  | bare | document => none

end Surroundings

/-- The text between grave accents, in which a backslash keeps some characters. -/
def accented (quoted : Bool) (read : List Char) : List Char → Option (List Char × List Char)
  | [] => none
  | '\x60' :: rest => some (read.reverse, rest)
  | '\\' :: c :: rest =>
    if ['$', '\x60', '\\'].contains c || quoted && c == '"' then accented quoted (c :: read) rest
    else accented quoted (c :: '\\' :: read) rest
  | c :: rest => accented quoted (c :: read) rest

/-- The use of a parameter that its operator tells, and the text after the operator. -/
def parameterUse : List Char → ParameterUse × List Char
  | ':' :: c :: rest =>
    match c with
    | '-' => (.orElse true, rest)
    | '=' => (.orAssign true, rest)
    | '?' => (.orFail true, rest)
    | '+' => (.andThen true, rest)
    | _ => (.unknown, rest)
  | '-' :: rest => (.orElse false, rest)
  | '=' :: rest => (.orAssign false, rest)
  | '?' :: rest => (.orFail false, rest)
  | '+' :: rest => (.andThen false, rest)
  | '#' :: '#' :: rest => (.trimStart true, rest)
  | '#' :: rest => (.trimStart false, rest)
  | '%' :: '%' :: rest => (.trimEnd true, rest)
  | '%' :: rest => (.trimEnd false, rest)
  | '}' :: rest => (.value, '}' :: rest)
  | _ :: rest => (.unknown, rest)
  | [] => (.unknown, [])

/-- The parameter that stands in braces, its use and the text after these. -/
def parameterHead (cs : List Char) : List Char × ParameterUse × List Char :=
  let named (cs : List Char) : List Char × List Char :=
    match cs with
    | c :: rest =>
      if isNameStart c then (cs.takeWhile isNameChar, cs.dropWhile isNameChar)
      else if c.isDigit then (cs.takeWhile Char.isDigit, cs.dropWhile Char.isDigit)
      else if isSpecial c then ([c], rest)
      else ([], cs)
    | [] => ([], [])
  match cs with
  | '#' :: c :: rest =>
    match named (c :: rest) with
    | (name, '}' :: after) =>
      if name.isEmpty then (['#'], .value, c :: rest) else (name, .length, '}' :: after)
    | _ =>
      if isNameChar c then ([], .unknown, cs)
      else
        let (use, after) := parameterUse (c :: rest)
        (['#'], use, after)
  | cs =>
    let (name, after) := named cs
    if name.isEmpty then ([], .unknown, cs)
    else
      let (use, after) := parameterUse after
      (name, use, after)

/-- Whether the word of a use is a pattern. -/
def ParameterUse.isTrim : ParameterUse → Bool
  | .trimStart _ | .trimEnd _ => true
  | _ => false

/-! ### Here documents -/

def linesOf (cs : List Char) : List (List Char) :=
  match cs with
  | [] => [[]]
  | c :: rest =>
    match c, linesOf rest with
    | '\n', lines => [] :: lines
    | c, line :: lines => (c :: line) :: lines
    | c, [] => [[c]]

/-- Takes the document that follows the current line, and returns the line where it begins. -/
def takeDocument (delimiter : List Char) (stripped : Bool) : Reader (Nat × List Char) := do
  let s ← get
  let start := s.line + s.owed + 1
  let line := s.rest.takeWhile (· != '\n')
  match s.rest.drop line.length with
  | [] => return (start, [])
  | _ :: below =>
    let strip (l : List Char) : List Char := if stripped then l.dropWhile (· == '\t') else l
    let lines := linesOf below
    let body := lines.takeWhile (strip · != delimiter)
    let body := if body.length = lines.length && body.getLast? = some [] then body.dropLast else body
    let left := lines.drop (body.length + 1)
    let ended := body.length < lines.length
    set { s with
      rest := line ++ (if left.isEmpty then ['\n'] else '\n' :: ['\n'].intercalate left)
      owed := s.owed + body.length + (if ended then 1 else 0) }
    return (start, body.flatMap fun l => strip l ++ ['\n'])

/-- The commands of the shell whose failures end a script. -/
def specialBuiltins : List String :=
  [".", ":", "break", "continue", "eval", "exec", "exit", "export", "local", "readonly", "return",
    "set", "shift", "times", "trap", "unset"]

/-! ### Words, tokens and commands -/

/-- Which line ends and which tokens end a list of commands. -/
inductive ListKind where
  /-- A line of the script. -/
  | line
  /-- At least one command. -/
  | body
  /-- Any number of commands. -/
  | any
deriving DecidableEq

namespace Reader

mutual

def parts (at_ : Surroundings) (bound : Nat) : Reader ShellWord :=
  match bound with
  | 0 => fault "word too long"
  | bound + 1 => do
    let quoted := at_.quotes
    let cs ← ahead
    if at_.endBefore cs then return []
    match cs with
    | [] =>
      match at_.fault? with
      | some message => fault message
      | none => return []
    | '\\' :: '\n' :: _ =>
      skipContinuation
      parts at_ bound
    | '\\' :: c :: _ =>
      skip 1
      let _ ← takeChar
      let part : Part := .text (if at_.escapes c then [c] else ['\\', c]) true
      return part :: (← parts at_ bound)
    | '$' :: _ =>
      skip 1
      let part ← dollar quoted bound
      return part :: (← parts at_ bound)
    | '\x60' :: rest =>
      match accented quoted [] rest with
      | none =>
        let _ ← takeWhile fun _ => true
        fault "EOF in backquote substitution"
      | some (text, after) =>
        let body ← nested text bound
        takeMany (rest.length + 1 - after.length)
        return .substitution body quoted :: (← parts at_ bound)
    | '"' :: _ =>
      match at_ with
      | .bare | .braces _ =>
        skip 1
        let inner ← parts .doubleQuotes bound
        skip 1
        -- Quotes with nothing between them make a word, though an empty one.
        let inner := if inner.isEmpty then [.text [] true] else inner
        return inner ++ (← parts at_ bound)
      | _ =>
        skip 1
        return .text ['"'] true :: (← parts at_ bound)
    | '\'' :: rest =>
      if quoted then
        skip 1
        return .text ['\''] true :: (← parts at_ bound)
      else
        skip 1
        if !rest.contains '\'' then
          let _ ← takeWhile fun _ => true
          fault "Unterminated quoted string"
        else
          let text ← takeWhile (· != '\'')
          skip 1
          return .text text true :: (← parts at_ bound)
    | c :: _ =>
      let _ ← takeChar
      return .text [c] quoted :: (← parts (at_.after c) bound)

/-- Reads what a dollar sign begins. -/
def dollar (quoted : Bool) (bound : Nat) : Reader Part :=
  match bound with
  | 0 => fault "word too long"
  | bound + 1 => do
    match ← ahead with
    | '(' :: '(' :: _ =>
      skip 2
      let expression ← parts (.arithmetic 0) bound
      skip 2
      return .arithmetic (ShellWord.joined expression) quoted
    | '(' :: _ =>
      skip 1
      let body ← list .any false [] bound
      match ← takeToken bound with
      | .closing => return .substitution [body] quoted
      | t => unexpectedFor t.name (quotedName ")")
    | '{' :: rest =>
      let (name, use, after) := parameterHead rest
      skip (1 + rest.length - after.length)
      -- Quotes around a parameter do not quote the pattern that is cut off from it.
      let word ← parts (.braces (quoted && !use.isTrim)) bound
      skip 1
      return .parameter name use (ShellWord.joined word) quoted
    | c :: _ =>
      if isNameStart c then return .parameter (← takeWhile isNameChar) .value [] quoted
      else if isSpecial c then
        skip 1
        return .parameter [c] .value [] quoted
      else return .text ['$'] quoted
    | [] => return .text ['$'] quoted

/-- Reads the commands of a text inside of another one. -/
def nested (text : List Char) (bound : Nat) : Reader (List Command) :=
  match bound with
  | 0 => fault "word too long"
  | bound + 1 => do
    let outer ← get
    set { outer with rest := text, owed := 0, pushed := none }
    let body ← list .any false [] bound
    set outer
    return [body]

def takeToken (bound : Nat) : Reader Token :=
  match bound with
  | 0 => fault "text too long"
  | bound + 1 => do
    let s ← get
    match s.pushed with
    | some t =>
      set { s with pushed := none }
      return t
    | none =>
      let operator (n : Nat) (t : Token) : Reader Token := do
        skip n
        return t
      let redirect (n descriptor : Nat) (kind : RedirectKind) : Reader Token :=
        operator n (.redirect descriptor kind false)
      match s.rest with
      | [] => return .finish
      | ' ' :: _ | '\t' :: _ =>
        skip 1
        takeToken bound
      | '\\' :: '\n' :: _ =>
        skipContinuation
        takeToken bound
      | '#' :: _ =>
        let _ ← takeWhile (· != '\n')
        takeToken bound
      | '\n' :: _ =>
        let _ ← takeChar
        return .newline
      | ';' :: ';' :: _ => operator 2 .endOfCase
      | ';' :: _ => operator 1 .semicolon
      | '&' :: '&' :: _ => operator 2 .andIf
      | '&' :: _ => operator 1 .ampersand
      | '|' :: '|' :: _ => operator 2 .orIf
      | '|' :: _ => operator 1 .bar
      | '(' :: _ => operator 1 .opening
      | ')' :: _ => operator 1 .closing
      | c :: rest =>
        -- A digit right before an angle bracket is the number of the stream.
        let (n, descriptor, cs) :=
          match rest with
          | d :: _ =>
            if c.isDigit && (d == '<' || d == '>') then (1, some (c.toNat - '0'.toNat), rest)
            else (0, none, c :: rest)
          | [] => (0, none, [c])
        match cs with
        | '>' :: '>' :: _ => redirect (n + 2) (descriptor.getD 1) .append
        | '>' :: '&' :: _ => redirect (n + 2) (descriptor.getD 1) .duplicate
        | '>' :: '|' :: _ => redirect (n + 2) (descriptor.getD 1) .output
        | '>' :: _ => redirect (n + 1) (descriptor.getD 1) .output
        | '<' :: '<' :: '-' :: _ => operator (n + 3) (.redirect (descriptor.getD 0) .document true)
        | '<' :: '<' :: _ => redirect (n + 2) (descriptor.getD 0) .document
        | '<' :: '&' :: _ => redirect (n + 2) (descriptor.getD 0) .duplicate
        | '<' :: '>' :: _ => redirect (n + 2) (descriptor.getD 0) .update
        | '<' :: _ => redirect (n + 1) (descriptor.getD 0) .input
        | _ => return .word (ShellWord.joined (← parts .bare bound))

/-- Reads a token that is no line end. -/
def takeNext (bound : Nat) : Reader Token :=
  match bound with
  | 0 => fault "text too long"
  | bound + 1 => do
    match ← takeToken bound with
    | .newline => takeNext bound
    | t => return t

def target (descriptor : Nat) (kind : RedirectKind) (stripped : Bool) (bound : Nat) :
    Reader Redirect :=
  match bound with
  | 0 => fault "text too long"
  | bound + 1 => do
    match ← takeToken bound with
    | .word w =>
      if kind = .document then
        let (start, text) ← takeDocument (w.flatMap fun p => p.literal?.getD []) stripped
        -- Nothing is expanded in a document whose delimiter has quoted parts.
        if w.any Part.isQuoted then return .mk descriptor kind [.text text true]
        else
          let outer ← get
          set { outer with rest := text, line := start, owed := 0 }
          let body ← parts .document bound
          set outer
          return .mk descriptor kind (ShellWord.joined body)
      else return .mk descriptor kind w
    | t => unexpected t

def redirects (bound : Nat) : Reader (List Redirect) :=
  match bound with
  | 0 => fault "text too long"
  | bound + 1 => do
    match ← takeToken bound with
    | .redirect descriptor kind stripped =>
      let r ← target descriptor kind stripped bound
      return r :: (← redirects bound)
    | t =>
      push t
      return []

/-- Reads commands up to the end of a list, after those that have been read. -/
def list (kind : ListKind) (started : Bool) (read : List Command) (bound : Nat) :
    Reader Command :=
  match bound with
  | 0 => fault "text too long"
  | bound + 1 => do
    let commands : Command := .sequence read.reverse
    match ← (if kind = .line then takeToken bound else takeNext bound) with
    | .newline => return commands
    | .finish =>
      push .finish
      return commands
    | t =>
      push t
      if t.endsList && (kind = .any || kind = .body && started) then return commands
      let command ← andOr bound
      match ← takeToken bound with
      | .ampersand => list kind true (.background command :: read) bound
      | .semicolon => list kind true (command :: read) bound
      | .newline =>
        push .newline
        list kind true (command :: read) bound
      | .finish =>
        push .finish
        return .sequence (command :: read).reverse
      | t =>
        -- Elsewhere whoever asked for the list knows which word has to close it.
        if kind = .line then unexpected t
        push t
        return .sequence (command :: read).reverse

/-- Reads commands that conditions join. -/
def andOr (bound : Nat) : Reader Command :=
  match bound with
  | 0 => fault "text too long"
  | bound + 1 => do
    andOrFrom (← pipeline bound) bound

/-- Reads what conditions join to a command. -/
def andOrFrom (first : Command) (bound : Nat) : Reader Command :=
  match bound with
  | 0 => fault "text too long"
  | bound + 1 => do
    match ← takeToken bound with
    | .andIf =>
      push (← takeNext bound)
      andOrFrom (.both first (← pipeline bound)) bound
    | .orIf =>
      push (← takeNext bound)
      andOrFrom (.either first (← pipeline bound)) bound
    | t =>
      push t
      return first

/-- Reads a pipeline, which may be negated. -/
def pipeline (bound : Nat) : Reader Command :=
  match bound with
  | 0 => fault "text too long"
  | bound + 1 => do
    let t ← takeToken bound
    if t.reserved? = some "!" then return .negation (← stages [] bound)
    push t
    stages [] bound

/-- Reads the stages of a pipeline, after those that have been read. -/
def stages (read : List Command) (bound : Nat) : Reader Command :=
  match bound with
  | 0 => fault "text too long"
  | bound + 1 => do
    let stage ← command bound
    match ← takeToken bound with
    | .bar =>
      push (← takeNext bound)
      stages (stage :: read) bound
    | t =>
      push t
      return if read.isEmpty then stage else .pipeline (stage :: read).reverse

/-- Reads a reserved word that has to stand here. -/
def expect (name : String) (bound : Nat) : Reader Unit :=
  match bound with
  | 0 => fault "text too long"
  | bound + 1 => do
    let t ← takeNext bound
    if t.reserved? = some name then return
    unexpectedFor t.name (quotedName name)

/-- Reads a conditional after its first word, up to its last one. -/
def conditional (bound : Nat) : Reader Command :=
  match bound with
  | 0 => fault "text too long"
  | bound + 1 => do
    let condition ← list .body false [] bound
    expect "then" bound
    let yes ← list .body false [] bound
    let t ← takeNext bound
    match t.reserved? with
    | some "elif" => return .branch condition yes (← conditional bound)
    | some "else" =>
      let no ← list .body false [] bound
      expect "fi" bound
      return .branch condition yes no
    | _ =>
      push t
      expect "fi" bound
      return .branch condition yes (.sequence [])

def loopBody (bound : Nat) : Reader Command :=
  match bound with
  | 0 => fault "text too long"
  | bound + 1 => do
    expect "do" bound
    let body ← list .body false [] bound
    expect "done" bound
    return body

/-- Reads words up to the end of a line or a semicolon. -/
def wordList (bound : Nat) : Reader (List ShellWord) :=
  match bound with
  | 0 => fault "text too long"
  | bound + 1 => do
    match ← takeToken bound with
    | .word w => return w :: (← wordList bound)
    | .newline | .semicolon => return []
    | t => unexpected t

/-- Reads a loop over words after its first word. -/
def forLoop (bound : Nat) : Reader Command :=
  match bound with
  | 0 => fault "text too long"
  | bound + 1 => do
    let line := (← get).line
    match ← takeToken bound with
    | .word w =>
      match ShellWord.plain? w with
      | some name =>
        if !isName name then fault "Bad for loop variable"
        let t ← takeNext bound
        if t.reserved? = some "in" then
          let words ← wordList bound
          return .forEach line name words (← loopBody bound)
        match t with
        | .semicolon => pure ()
        | t => push t
        -- Without a list the loop runs over the arguments.
        return .forEach line name [[.parameter ['@'] .value [] true]] (← loopBody bound)
      | none => fault "Bad for loop variable"
    | _ => fault "Bad for loop variable"

/-- Reads the patterns of a case, the first of which begins with the token. -/
def patterns (t : Token) (bound : Nat) : Reader (List ShellWord) :=
  match bound with
  | 0 => fault "text too long"
  | bound + 1 => do
    let w ← match t with
      | .word w => pure w
      | _ => pure []
    match ← takeToken bound with
    | .bar => return w :: (← patterns (← takeToken bound) bound)
    | .closing => return [w]
    | .word _ => unexpectedFor "word" (quotedName ")")
    | t => unexpectedFor t.name (quotedName ")")

def cases (bound : Nat) : Reader (List (List ShellWord × Command)) :=
  match bound with
  | 0 => fault "text too long"
  | bound + 1 => do
    let t ← takeNext bound
    if t.reserved? = some "esac" then return []
    let t ← match t with
      | .opening => takeToken bound
      | t => pure t
    let patterns ← patterns t bound
    let body ← list .any false [] bound
    let t ← takeNext bound
    if t.reserved? = some "esac" then return [(patterns, body)]
    match t with
    | .endOfCase => return (patterns, body) :: (← cases bound)
    | t => unexpectedFor t.name (quotedName ";;")

def command (bound : Nat) : Reader Command :=
  match bound with
  | 0 => fault "text too long"
  | bound + 1 => do
    let t ← takeToken bound
    let line := (← get).line
    let compound (c : Command) : Reader Command := do
      match ← redirects bound with
      | [] => return c
      | rs => return .redirected line c rs
    match t, t.reserved? with
    | _, some "if" => compound (← conditional bound)
    | _, some "while" =>
      let condition ← list .body false [] bound
      compound (.loop true condition (← loopBody bound))
    | _, some "until" =>
      let condition ← list .body false [] bound
      compound (.loop false condition (← loopBody bound))
    | _, some "for" => compound (← forLoop bound)
    | _, some "case" =>
      match ← takeToken bound with
      | .word subject =>
        expect "in" bound
        compound (.choice line subject (← cases bound))
      | t => unexpectedFor t.name "word"
    | _, some "\x7b" =>
      let body ← list .body false [] bound
      expect "\x7d" bound
      compound body
    | .opening, _ =>
      let body ← list .body false [] bound
      match ← takeToken bound with
      | .closing => compound (.subshell body)
      | t => unexpectedFor t.name (quotedName ")")
    | t, some _ => unexpected t
    | .word w, none =>
      if let some name := ShellWord.plain? w then
        if ← replaceAlias name then return (← command bound)
      push (.word w)
      simple line [] [] [] bound
    | .redirect d k s, _ =>
      push (.redirect d k s)
      simple line [] [] [] bound
    | t, _ => unexpected t

/-- Reads a simple command or a definition, after what has been read of it. -/
def simple (line : Nat) (assignments : List (List Char × ShellWord)) (words : List ShellWord)
    (rs : List Redirect) (bound : Nat) : Reader Command :=
  match bound with
  | 0 => fault "text too long"
  | bound + 1 => do
    let t ← takeToken bound
    match t, words, assignments, rs with
    | .word w, _, _, _ =>
      match if words.isEmpty then assignment? w else none with
      | some a => simple line (a :: assignments) words rs bound
      | none => simple line assignments (w :: words) rs bound
    | .redirect descriptor kind stripped, _, _, _ =>
      let r ← target descriptor kind stripped bound
      simple line assignments words (r :: rs) bound
    -- Parentheses behind the only word so far begin the definition of a function.
    | .opening, [w], [], [] =>
      match ← takeToken bound with
      | .closing =>
        match ShellWord.plain? w with
        | some name =>
          if !isName name || specialBuiltins.contains (String.ofList name) then
            fault "Bad function name"
          push (← takeNext bound)
          return .define name (← command bound)
        | none => fault "Bad function name"
      | .word _ => unexpectedFor "word" (quotedName ")")
      | t => unexpectedFor t.name (quotedName ")")
    | t, _, _, _ =>
      push t
      return .simple line assignments.reverse words.reverse rs.reverse

end

end Reader

namespace Source

def ofText (text : List Char) : Source := ⟨text, 1, 0, none, [], []⟩

def isFinished (s : Source) : Bool :=
  match s.pushed, s.rest with
  | some .finish, _ | _, [] => true
  | _, _ => false

/-- Reads the commands of one line, or of some more where they go on. -/
def nextLine (s : Source) : Except Fault (Command × Source) :=
  Reader.list .line false [] (20 * s.rest.length + 100) s

end Source

end SageEditor.Shell

/-
Arguments of programs.

* `Grammar` — the options and operands that a program or a subcommand takes;
* `Grammar.read` — the arguments of such a command as `Arguments`.

Design notes: an option is given at most once, and its value follows it or an equals sign.  A
value or an operand that begins with a hyphen is taken for an option unless an equals sign or two
hyphens stand before it; one hyphen alone is an operand.
-/

namespace SageEditor.CommandLine

/-- What values an argument takes. -/
inductive ValueKind where
  | text
  /-- A path, which may not be empty. -/
  | path
deriving DecidableEq, Repr

def ValueKind.accepts : ValueKind → String → Bool
  | .text, _ => true
  | .path, s => !s.isEmpty

structure Grammar where
  flags : List String
  options : List (String × ValueKind)
  operands : List ValueKind

/-- The arguments of a command: the flags that are set, the options with their values and the
operands. -/
structure Arguments where
  flags : List String
  options : List (String × String)
  operands : List String
deriving DecidableEq, Repr

namespace Arguments

def empty : Arguments := ⟨[], [], []⟩

def hasFlag (a : Arguments) (name : String) : Bool := a.flags.contains name

def option? (a : Arguments) (name : String) : Option String := a.options.lookup name

end Arguments

/-- The name of a long option, and its value if an equals sign is in it. -/
def longOption? (arg : String) : Option (String × Option String) :=
  match arg.toList with
  | '-' :: '-' :: cs =>
    match cs.dropWhile (· != '=') with
    | [] => some (String.ofList cs, none)
    | _ :: value => some (String.ofList (cs.takeWhile (· != '=')), some (String.ofList value))
  | _ => none

/-- Whether an argument stands for itself and not for an option. -/
def isOperand (arg : String) : Bool :=
  !arg.startsWith "-" || arg == "-"

namespace Grammar

/-- Adds an operand, if there is a place for it. -/
def addOperand (g : Grammar) (a : Arguments) (arg : String) : Option Arguments :=
  match g.operands[a.operands.length]? with
  | some kind => if kind.accepts arg then some { a with operands := a.operands ++ [arg] } else none
  | none => none

/-- Adds an option with its value, unless it is there. -/
def addOption (a : Arguments) (name : String) (kind : ValueKind) (value : String) :
    Option Arguments :=
  if (a.option? name).isSome || !kind.accepts value then none
  else some { a with options := a.options ++ [(name, value)] }

/-- Sets a flag, unless it is set. -/
def addFlag (a : Arguments) (name : String) : Option Arguments :=
  if a.hasFlag name then none else some { a with flags := a.flags ++ [name] }

/-- Reads one option at the start of the arguments; nothing if it is malformed or unknown. -/
def readOption (g : Grammar) (a : Arguments) (arg : String) (rest : List String) :
    Option (Arguments × List String) := do
  let (name, value) ← longOption? arg
  if g.flags.contains name then
    if value.isSome then none else return (← addFlag a name, rest)
  else
    let kind ← g.options.lookup name
    match value, rest with
    | some v, rest => return (← addOption a name kind v, rest)
    | none, v :: rest => if isOperand v then return (← addOption a name kind v, rest) else none
    | none, [] => none

/-- Reads arguments; `literal` after two hyphens, where all are operands. -/
def readFrom (g : Grammar) (a : Arguments) (literal : Bool) : (bound : Nat) → List String →
    Option Arguments
  | _, [] => some a
  | 0, _ => none
  | bound + 1, arg :: rest =>
    if literal || isOperand arg then do
      readFrom g (← g.addOperand a arg) literal bound rest
    else if arg = "--" then readFrom g a true bound rest
    else do
      let (a, rest) ← g.readOption a arg rest
      readFrom g a false bound rest

/-- Reads the arguments of a command; nothing if they are refused. -/
def read (g : Grammar) (args : List String) : Option Arguments :=
  g.readFrom .empty false args.length args

end Grammar

end SageEditor.CommandLine

import Testbed.Text.Pieces

/-!
# Options and operands

The arguments of one level of a command line are options, operands and, at the level of the program
itself, the name of a command. `scan` sorts them:

* a long option is `--name`, with its value after `=` or as the next argument;
* short options may share one argument; the value of the last is what follows, with or without `=`,
  or the next argument;
* an argument that starts with a dash is no value, except for the dash alone;
* after `--` all arguments are operands.

No option may be given twice.
-/

namespace Testbed.CommandLine

/-- Why arguments are not carried out. -/
inductive Stop where
  /-- Help was asked for. -/
  | help
  /-- The arguments are not proper. -/
  | usage
  deriving Repr, DecidableEq

/-- An option. -/
structure Choice where
  name : String
  letter : Option Char := none
  /-- Whether it has a value. -/
  hasValue : Bool
  /-- Which values it can have. -/
  accepts : String → Bool := fun _ => true

/-- What a level of the command line understands. -/
structure Level where
  choices : List Choice
  /-- How many operands it takes. -/
  operands : Nat := 0
  /-- The commands it leads to. -/
  commands : List String := []

/-- What is given on a level: options by name, and operands. -/
structure Given where
  /-- The options; one that has no value has the empty one here. -/
  values : List (String × String) := []
  operands : List String := []
  deriving Repr, DecidableEq

namespace Given

/-- The value of an option, if it is given. -/
def value? (given : Given) (name : String) : Option String := given.values.lookup name

/-- Whether an option is given. -/
def has (given : Given) (name : String) : Bool := (given.value? name).isSome

/-- Adds an option. -/
def add (given : Given) (choice : Choice) (value : String) : Except Stop Given :=
  if given.has choice.name || !choice.accepts value then .error .usage
  else .ok { given with values := given.values ++ [(choice.name, value)] }

/-- Adds an option without a value; the one for help stops the reading. -/
def switch (given : Given) (choice : Choice) : Except Stop Given :=
  if choice.name = "help" then .error .help else given.add choice ""

/-- Adds an operand, which must not be empty. -/
def addOperand (given : Given) (level : Level) (operand : String) : Except Stop Given :=
  if operand.isEmpty || level.operands ≤ given.operands.length then .error .usage
  else .ok { given with operands := given.operands ++ [operand] }

end Given

/-- A long option, without its dashes; an option is left that waits for its value. -/
def readLong (level : Level) (given : Given) (cs : List Char) :
    Except Stop (Given × Option Choice) := do
  let (name, value) := match Text.cutAt? '=' cs with
    | some (name, value) => (name, some (String.ofList value))
    | none => (cs, none)
  match level.choices.find? (·.name.toList = name) with
  | none => throw .usage
  | some choice =>
    match choice.hasValue, value with
    | true, some value => pure (← given.add choice value, none)
    | true, none => pure (given, some choice)
    | false, some _ => throw .usage
    | false, none => pure (← given.switch choice, none)

/-- Short options that share an argument, without its dash. -/
def readShort (level : Level) : Given → List Char → Except Stop (Given × Option Choice)
  | given, [] => .ok (given, none)
  | given, c :: cs =>
    match level.choices.find? (·.letter = some c) with
    | none => .error .usage
    | some choice =>
      if !choice.hasValue then do readShort level (← given.switch choice) cs
      else match cs with
        | [] => .ok (given, some choice)
        | '=' :: value => do pure (← given.add choice (String.ofList value), none)
        | value => do pure (← given.add choice (String.ofList value), none)

/-- Sorts the arguments of a level, up to the name of a command. `waiting` is an option that waits
for its value. -/
def scan (level : Level) : (waiting : Option Choice) → Given → List String →
    Except Stop (Given × Option (String × List String))
  | none, given, [] => .ok (given, none)
  | some _, _, [] => .error .usage
  | waiting, given, argument :: rest =>
    if waiting.isNone && level.commands.contains argument then .ok (given, some (argument, rest))
    else match waiting, argument.toList with
      | none, ['-', '-'] => do
        pure (← rest.foldlM (fun given operand => given.addOperand level operand) given, none)
      | none, '-' :: '-' :: cs => do
        let (given, waiting) ← readLong level given cs
        scan level waiting given rest
      | none, '-' :: c :: cs => do
        let (given, waiting) ← readShort level given (c :: cs)
        scan level waiting given rest
      | none, _ => do scan level none (← given.addOperand level argument) rest
      | some _, '-' :: _ :: _ => .error .usage
      | some choice, _ => do scan level none (← given.add choice argument) rest

end Testbed.CommandLine

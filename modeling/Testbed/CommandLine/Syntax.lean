import Testbed.CommandLine.Options
import Testbed.Ssh.Settings
import Testbed.Text.Numeral

/-!
# The commands of the program

Four commands: to run tests, to install the suite, to read a log that is at hand, and to show the
settings in force. The options for the settings file and for more messages may stand before or after
the name of a command; of two settings files the one after the name counts.
-/

namespace Testbed.CommandLine

/-- Options that say which node is meant. -/
structure Target where
  host : Option String := none
  user : Option String := none
  port : Option UInt16 := none
  identity : Option String := none
  /-- Whether commands run on this machine. -/
  here : Bool := false
  deriving Repr, DecidableEq

/-- The options of a run. -/
structure RunOptions where
  target : Target := {}
  tests : Option String := none
  skip : Option String := none
  drive : Option String := none
  resultFile : Option String := none
  showOutput : Bool := false
  deriving Repr, DecidableEq

/-- A command. -/
inductive Command where
  | run (options : RunOptions)
  | install (target : Target)
  | parse (log : String) (version : Option String) (json : Bool)
  | showConfig (target : Target)
  deriving Repr, DecidableEq

/-- A command line that can be carried out. -/
structure Order where
  settingsFile : Option String := none
  command : Command
  deriving Repr, DecidableEq

/-! ## Levels -/

/-- Whether a value can be a path. -/
def isPath (value : String) : Bool := !value.isEmpty

/-- The port that a value names. -/
def port? (value : String) : Option UInt16 := do
  let n ← Text.Numeral.readSigned? 64 value.toList
  if 0 ≤ n ∧ n < Ssh.portLimit then some n.toNat.toUInt16 else none

/-- Options of every level. -/
def generalChoices : List Choice :=
  [⟨"config", some 'c', true, isPath⟩, ⟨"verbose", some 'v', false, fun _ => true⟩,
    ⟨"help", some 'h', false, fun _ => true⟩]

/-- An option with a value that may be any text. -/
def textChoice (name : String) (letter : Option Char := none) : Choice :=
  ⟨name, letter, true, fun _ => true⟩

/-- An option without a value. -/
def switchChoice (name : String) : Choice := ⟨name, none, false, fun _ => true⟩

/-- Options that say which node is meant. -/
def targetChoices : List Choice :=
  [textChoice "host", textChoice "user", ⟨"port", none, true, fun v => (port? v).isSome⟩,
    ⟨"identity", none, true, isPath⟩, switchChoice "local"]

/-- The level of the program itself. -/
def programLevel : Level where
  choices := generalChoices
  commands := ["run", "install", "parse", "show-config", "help"]

/-- The level of a run. -/
def runLevel : Level where
  choices := generalChoices ++ targetChoices ++
    [textChoice "tests" 't', textChoice "skip" 's', textChoice "drive",
      ⟨"result-file", none, true, isPath⟩, switchChoice "show-output"]

/-- The level of a command that only has a target. -/
def targetLevel : Level where
  choices := generalChoices ++ targetChoices

/-- The level of reading a log. -/
def parseLevel : Level where
  choices := generalChoices ++ [textChoice "version", switchChoice "json"]
  operands := 1

/-! ## Reading -/

/-- The node that options say. -/
def readTarget (given : Given) : Target where
  host := given.value? "host"
  user := given.value? "user"
  port := (given.value? "port").bind port?
  identity := given.value? "identity"
  here := given.has "local"

/-- The options of a run. -/
def readRun (given : Given) : RunOptions where
  target := readTarget given
  tests := given.value? "tests"
  skip := given.value? "skip"
  drive := given.value? "drive"
  resultFile := given.value? "result-file"
  showOutput := given.has "show-output"

/-- The arguments of a command, which leads to no other. -/
def readLevel (level : Level) (arguments : List String) : Except Stop Given :=
  (scan level none {} arguments).map (·.1)

/-- The command of a name, with its options. -/
def readCommand (name : String) (arguments : List String) : Except Stop (Given × Command) := do
  match name with
  | "run" =>
    let given ← readLevel runLevel arguments
    pure (given, .run (readRun given))
  | "install" =>
    let given ← readLevel targetLevel arguments
    pure (given, .install (readTarget given))
  | "show-config" =>
    let given ← readLevel targetLevel arguments
    pure (given, .showConfig (readTarget given))
  | "parse" =>
    let given ← readLevel parseLevel arguments
    match given.operands with
    | [log] => pure (given, .parse log (given.value? "version") (given.has "json"))
    | _ => throw .usage
  | _ =>
    match arguments with
    | [] => throw .help
    | [topic] => throw (if programLevel.commands.contains topic then .help else .usage)
    | _ => throw .usage

/-- The order that the arguments of the program give. -/
def read (arguments : List String) : Except Stop Order := do
  match ← scan programLevel none {} arguments with
  | (_, none) => throw .usage
  | (outer, some (name, rest)) =>
    let (inner, command) ← readCommand name rest
    pure ⟨(inner.value? "config").or (outer.value? "config"), command⟩

end Testbed.CommandLine

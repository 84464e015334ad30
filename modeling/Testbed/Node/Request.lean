import Testbed.Shell.Quote

/-!
# Commands for a node, and what they answer

A `Request` asks for one shell command on a node. Its `line` is what a shell there is given: the
change of directory and the elevation are folded into the text of the command.
-/

namespace Testbed

/-- A command to run on a node. -/
structure Request where
  /-- The text of the command. -/
  command : String
  /-- Whether it runs with elevated rights. -/
  elevated : Bool := false
  /-- Whether it runs even if the result of the same line is remembered. -/
  forced : Bool := false
  /-- The directory it runs in, if not the login directory. -/
  directory : Option String := none
  /-- How many milliseconds it may take, if not the default of the connection. -/
  timeoutMs : Option Nat := none
  deriving Repr, DecidableEq

/-- What a command that ran to its end leaves behind. -/
structure Output where
  exitCode : Int32
  stdout : String := ""
  stderr : String := ""
  deriving Repr, DecidableEq

/-- Whether the command ended well. -/
def Output.succeeded (o : Output) : Bool := o.exitCode == 0

namespace Request

/-- The command in its directory. -/
def body (r : Request) : String :=
  match r.directory with
  | some d => "cd " ++ Shell.quote d ++ " && " ++ r.command
  | none => r.command

/-- The line for the shell of the node. -/
def line (r : Request) : String :=
  if r.elevated then "sudo -n sh -c " ++ Shell.quote r.body else r.body

end Request

end Testbed

import Testbed.Ssh.Settings

/-!
# What can go wrong on a node

The causes for which an operation on a node fails, and their wording.
-/

namespace Testbed

/-- Why an operation on a node failed. -/
inductive NodeError where
  /-- The output of a started program could not be collected. -/
  | io (reason : String)
  /-- The program that carries commands to the node could not be started. -/
  | spawnFailed (program reason : String)
  /-- A command line took longer than its limit. -/
  | timedOut (line : String) (limitMs : Nat)
  /-- A command ended with an exit code that counts as failure. -/
  | commandFailed (command : String) (exitCode : Int32) (stderr : String)
  /-- A command ended well, but its output cannot be read. -/
  | unexpectedOutput (command reason : String)
  /-- There is no way to the node with these settings. -/
  | invalidSettings (fault : Ssh.Fault)
  deriving Repr, DecidableEq

/-- The wording of an error; a limit is given in whole seconds. -/
def NodeError.message : NodeError → String
  | .io reason => "IO error: " ++ reason
  | .spawnFailed program reason => s!"Failed to spawn '{program}': {reason}"
  | .timedOut line limitMs => s!"Command timed out after {limitMs / 1000}s: {line}"
  | .commandFailed command exitCode stderr =>
    s!"Command '{command}' exited with code {exitCode.toInt}: {stderr}"
  | .unexpectedOutput command reason => s!"Unexpected output from '{command}': {reason}"
  | .invalidSettings fault => s!"Invalid configuration: {fault.message}"

end Testbed

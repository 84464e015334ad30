import Testbed.Node.Session
import Testbed.Text.Line
import Testbed.Text.Utf8

/-!
# How requests reach a node

A request is carried out by starting a program here: a shell for this machine, or the ssh client
for another. `Transport.invocation` is the program that a transport starts for a request, and
`Transport.interpret` makes an answer of how the program ended. Starting programs is left to the
caller.

The two transports differ in one point: an ssh client that ends with 255 and says that it could not
connect makes a failure of the request, and not a result.
-/

namespace Testbed

/-- A program to start. -/
structure Invocation where
  program : String
  arguments : List String
  /-- How many milliseconds it may run. -/
  limitMs : Nat
  deriving Repr, DecidableEq

/-- How a started program ended. -/
inductive Ending where
  /-- It could not be started. -/
  | notStarted (reason : String)
  /-- It was stopped because it ran beyond its limit. -/
  | overran
  /-- Its output could not be collected. -/
  | lost (reason : String)
  /-- It ended by itself with an exit code, or by a signal (no code), and wrote these bytes. -/
  | ended (exitCode : Option Int32) (stdout stderr : ByteArray)

/-- The way to a node. -/
inductive Transport where
  /-- A shell on this machine, with the default limit of a command in milliseconds. -/
  | shell (program : String) (defaultLimitMs : Nat)
  /-- The ssh client. -/
  | ssh (program : String) (settings : Ssh.Settings)
  deriving Repr, DecidableEq

namespace Transport

/-- A shell on this machine whose commands may take ten minutes. -/
def here : Transport := .shell "sh" 600000

/-- The ssh client with settings that can work. -/
def ssh? (settings : Ssh.Settings) : Except NodeError Transport :=
  match settings.fault? with
  | some fault => .error (.invalidSettings fault)
  | none => .ok (.ssh "ssh" settings)

/-- The same way by another program. -/
def withProgram (program : String) : Transport → Transport
  | .shell _ limit => .shell program limit
  | .ssh _ settings => .ssh program settings

/-- The name of this kind of connection. -/
def name : Transport → String
  | .shell .. => "local"
  | .ssh .. => "ssh"

/-- How long a command may take that sets no limit of its own, in milliseconds. -/
def defaultLimitMs : Transport → Nat
  | .shell _ limit => limit
  | .ssh _ settings => settings.defaultTimeoutSecs * 1000

/-- The program that carries a request out. -/
def invocation (transport : Transport) (r : Request) : Invocation :=
  let limit := r.timeoutMs.getD transport.defaultLimitMs
  match transport with
  | .shell program _ => ⟨program, ["-c", r.line], limit⟩
  | .ssh program settings => ⟨program, settings.arguments r.line, limit⟩

/-- Whether a line of an ssh client's messages says that it could not connect. -/
def reportsNoConnection (line : List Char) : Bool :=
  let message := Text.trim line
  "ssh:".toList.isPrefixOf message || Text.occursIn "Permission denied (".toList message ||
    "Host key verification failed".toList.isPrefixOf message

/-- Whether an ssh client failed to connect. Its exit code alone does not tell, since the command on
the node may end with the same one. -/
def isConnectionFailure (output : Output) : Bool :=
  output.exitCode == 255 && (Text.lines output.stderr.toList).any reportsNoConnection

/-- The result of a program's end, whichever the transport. -/
def collect (invocation : Invocation) (line : String) : Ending → Answer
  | .notStarted reason => .error (.spawnFailed invocation.program reason)
  | .overran => .error (.timedOut line invocation.limitMs)
  | .lost reason => .error (.io reason)
  | .ended exitCode stdout stderr =>
    .ok ⟨exitCode.getD (-1), Text.Utf8.decodeLossy stdout, Text.Utf8.decodeLossy stderr⟩

/-- The answer to a request, given how its program ended. -/
def interpret (transport : Transport) (r : Request) (ending : Ending) : Answer := do
  let output ← collect (transport.invocation r) r.line ending
  match transport with
  | .shell .. => pure output
  | .ssh _ settings =>
    if isConnectionFailure output then
      throw (.commandFailed ("ssh " ++ settings.destination) output.exitCode
        (Text.trimmed output.stderr))
    else pure output

/-- Carries a request out, with `start` starting programs. -/
def execute {m : Type → Type} [Monad m] (transport : Transport) (start : Invocation → m Ending)
    (r : Request) : m Answer := do
  let ending ← start (transport.invocation r)
  pure (transport.interpret r ending)

end Transport

end Testbed

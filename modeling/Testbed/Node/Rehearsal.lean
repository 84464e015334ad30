import Testbed.Node.Session
import Testbed.Rule

/-!
# A node that is only rehearsed

A stand-in for the connection to a node: it answers each request by rules on the text of its
command, and keeps a record of all requests. A request that no rule answers ends well with empty
output.
-/

namespace Testbed

/-- What a rehearsed node does with a request. -/
inductive Rehearsed where
  | output (output : Output)
  | timeout
  | spawnFailure (reason : String)
  deriving Repr, DecidableEq

/-- A rehearsed node: its rules, and the requests made so far. -/
structure Rehearsal where
  rules : List (Rule Rehearsed) := []
  requests : List Request := []
  deriving Repr, DecidableEq

namespace Rehearsal

/-- The name of this kind of connection. -/
def name : String := "mock"

/-- Adds a rule behind the others. -/
def register (rehearsal : Rehearsal) (rule : Rule Rehearsed) : Rehearsal :=
  { rehearsal with rules := rehearsal.rules ++ [rule] }

/-- Answers every command that holds a text. -/
def respond (rehearsal : Rehearsal) (pattern : String) (response : Rehearsed) : Rehearsal :=
  rehearsal.register (.always pattern response)

/-- Answers only the next command that holds a text; later ones fall through to the rules behind. -/
def respondOnce (rehearsal : Rehearsal) (pattern : String) (response : Rehearsed) : Rehearsal :=
  rehearsal.register (.once pattern response)

/-- The answer to a request. -/
def answerOf (r : Request) : Option Rehearsed → Answer
  | none => .ok ⟨0, "", ""⟩
  | some (.output output) => .ok output
  | some .timeout => .error (.timedOut r.line (r.timeoutMs.getD 0))
  | some (.spawnFailure reason) => .error (.spawnFailed name reason)

/-- Records a request and answers it. -/
def execute (r : Request) : StateM Rehearsal Answer := fun rehearsal =>
  let (response, rules) := Rule.answer r.command rehearsal.rules
  (answerOf r response, ⟨rules, rehearsal.requests ++ [r]⟩)

/-- The texts of the commands recorded. -/
def commands (rehearsal : Rehearsal) : List String := rehearsal.requests.map (·.command)

/-- The recorded requests whose command holds a text. -/
def holding (rehearsal : Rehearsal) (pattern : String) : List Request :=
  rehearsal.requests.filter fun r => Text.contains r.command pattern

/-- Forgets the recorded requests. -/
def forget (rehearsal : Rehearsal) : Rehearsal := { rehearsal with requests := [] }

end Rehearsal

end Testbed

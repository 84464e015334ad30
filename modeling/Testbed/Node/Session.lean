import Testbed.Node.Cache
import Testbed.Node.Error
import Testbed.Script

/-!
# Talking to a node

An operation on a node is a script of requests that may fail (`NodeScript`). `serve` answers one
request on behalf of a node: it consults and fills the node's memory of earlier results, and passes
on what must really run. Whoever runs the commands is a parameter, in any monad.
-/

namespace Testbed

/-- What running a request yields. -/
abbrev Answer := Except NodeError Output

/-- A script of requests that may fail with `ε`. -/
abbrev NodeScript (ε : Type) := ExceptT ε (Script Request fun _ => Answer)

/-- The requests of a script, and its result as a value. -/
abbrev Requests := Script Request fun _ => Answer

namespace Node

/-- Runs a request. -/
def execute (r : Request) : NodeScript NodeError Output := ExceptT.mk (Script.question r)

/-- Runs a request; an exit code other than 0 is a failure. -/
def executeChecked (r : Request) : NodeScript NodeError Output := do
  let output ← execute r
  if output.succeeded then pure output
  else throw (.commandFailed r.command output.exitCode (Text.trimmed output.stderr))

/-- Answers a request for a node that remembers results: a request without force is answered from
memory if its line is there, and remembered if it had to run and ran. -/
def serve {m : Type → Type} [Monad m] (run : Request → m Answer) (r : Request) :
    StateT Cache m Answer := fun cache => do
  match if r.forced then none else cache.find? r.line with
  | some output => pure (.ok output, cache)
  | none =>
    match ← run r with
    | .error e => pure (.error e, cache)
    | .ok output =>
      pure (.ok output, if r.forced then cache else cache.remember r.line output)

/-- How a node with the named connection describes itself. -/
def description (connection : String) : String :=
  "Node \x7b executor: \"" ++ connection ++ "\" \x7d"

end Node

/-- Carries out a script of requests on a node. -/
def NodeScript.runOn {m : Type → Type} [Monad m] {ε α : Type} (script : NodeScript ε α)
    (run : Request → m Answer) : StateT Cache m (Except ε α) :=
  Script.run (Node.serve run) script.run

end Testbed

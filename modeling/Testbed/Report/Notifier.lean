import Testbed.Host.Action
import Testbed.Report.Table

/-!
# Notifiers

A notifier is offered messages one at a time and may do something with them at the end. The console
and the text notifier keep what came to an end and write the summary table of it; a recorder keeps
what it accepts, and may refuse a message for any reason that its history gives it, the messages that
it refused before included.

A `Hub` offers each message to its notifiers in the order in which they were registered, and stops
at the first that fails. `Hub.notify` and `Hub.deliver` only change what the notifiers keep;
`Hub.finalize` acts on the machine.
-/

namespace Testbed.Report

/-- Why a notifier fails. -/
inductive NotifierError where
  /-- The file to write is already there. -/
  | fileExists (path : String)
  | io (reason : String)
  deriving Repr, DecidableEq

/-- The wording of an error. -/
def NotifierError.message : NotifierError → String
  | .fileExists path => s!"Result file already exists: {path}"
  | .io reason => s!"IO error: {reason}"

/-- When a recorder refuses a message: this may depend on all that it was offered before. -/
structure Temper where
  refuse : List Message → Message → Option NotifierError
  offered : List Message := []

/-- A temper after one more offer. -/
def Temper.heard (m : Message) (temper : Temper) : Temper :=
  { temper with offered := temper.offered ++ [m] }

/-- A receiver of messages, with the messages it keeps. -/
inductive Notifier where
  | log
  | collect (kept : List Message)
  | console (kept : List Message)
  | text (path : String) (kept : List Message)
  | recorder (name : String) (temper : Temper) (kept : List Message)

namespace Notifier

/-- The name of a notifier. -/
def name : Notifier → String
  | .log => "log"
  | .collect _ => "collect"
  | .console _ => "console"
  | .text .. => "text_result"
  | .recorder name .. => name

/-- The messages that a notifier keeps. -/
def kept : Notifier → List Message
  | .log => []
  | .collect kept => kept
  | .console kept => kept
  | .text _ kept => kept
  | .recorder _ _ kept => kept

/-- A message if the test came to an end. -/
def ended (m : Message) : List Message := if m.isCompleted then [m] else []

/-- Offers a message to a notifier. -/
def offer (m : Message) : Notifier → Except NotifierError Notifier
  | .log => .ok .log
  | .collect kept => .ok (.collect (kept ++ [m]))
  | .console kept => .ok (.console (kept ++ ended m))
  | .text path kept => .ok (.text path (kept ++ ended m))
  | .recorder name temper kept =>
    match temper.refuse temper.offered m with
    | some e => .error e
    | none => .ok (.recorder name (temper.heard m) (kept ++ [m]))

/-- A notifier that has refused a message. -/
def refused (m : Message) : Notifier → Notifier
  | .recorder name temper kept => .recorder name (temper.heard m) kept
  | notifier => notifier

/-- A recorder that refuses the messages about one test, if any. -/
def recorderFor (name : String) (refused : Option (String × NotifierError)) : Notifier :=
  .recorder name
    { refuse := fun _ m => refused.bind fun (test, e) => if m.name = test then some e else none } []

/-- The notifier that writes the summary to a file that is not there yet. -/
def text? (path : String) : HostScript (Except NotifierError Notifier) := do
  if ← Host.probe path then pure (.error (.fileExists path)) else pure (.ok (.text path []))

/-- The content of a file of lines. -/
def fileText (lines : List String) : String := String.join (lines.map (· ++ "\n"))

/-- What a notifier does at the end. -/
def finalize : Notifier → HostScript (Except NotifierError Unit)
  | .console kept => do
    (table kept).forM Host.print
    pure (.ok ())
  | .text path kept => do
    let outcome ← Host.write path (fileText (table kept))
    pure (outcome.mapError fun fault => .io fault.message)
  | .log | .collect _ | .recorder .. => pure (.ok ())

end Notifier

/-- Notifiers in the order in which they were registered. -/
abbrev Hub := List Notifier

namespace Hub

/-- The names of the notifiers. -/
def names (hub : Hub) : List String := hub.map (·.name)

/-- The hub with one more notifier. -/
def register (hub : Hub) (notifier : Notifier) : Hub := hub ++ [notifier]

/-- Offers a message to the notifiers, up to the first that fails. -/
def notify (m : Message) : Hub → Hub × Except NotifierError Unit
  | [] => ([], .ok ())
  | notifier :: rest =>
    match notifier.offer m with
    | .error e => (notifier.refused m :: rest, .error e)
    | .ok notifier =>
      let (rest, outcome) := notify m rest
      (notifier :: rest, outcome)

/-- Offers messages in turn, up to the first failure. -/
def deliver : List Message → Hub → Hub × Except NotifierError Unit
  | [], hub => (hub, .ok ())
  | m :: ms, hub =>
    match notify m hub with
    | (hub, .error e) => (hub, .error e)
    | (hub, .ok ()) => deliver ms hub

/-- Lets the notifiers do what they do at the end, up to the first that fails. -/
def finalize : Hub → HostScript (Except NotifierError Unit)
  | [] => pure (.ok ())
  | notifier :: rest => do
    match ← notifier.finalize with
    | .error e => pure (.error e)
    | .ok () => finalize rest

end Hub

end Testbed.Report

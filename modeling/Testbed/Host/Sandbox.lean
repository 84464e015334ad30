import Testbed.Host.Directory
import Testbed.Rule

/-!
# A machine in memory

A stand-in for the machine that the command line acts on: files are kept in a tree, printed lines
are collected, and the programs that can be started are named. A started program is recorded with
its arguments; what it does is told by the first rule whose pattern stands in its last argument, and
without a rule it ends well with no output.
-/

namespace Testbed.Host

/-- What a program of the sandbox does when it is started. -/
structure Performance where
  stdout : ByteArray := .empty
  stderr : ByteArray := .empty
  /-- The status it ends with; it ends by a signal if there is none. -/
  status : Option Int := some 0
  /-- How many milliseconds it sleeps before it ends. -/
  sleepMs : Nat := 0

namespace Performance

/-- The exit code of a program: the lowest eight bits of its status. -/
def exitCode (status : Int) : Int32 := Int32.ofInt (status % 256)

/-- How a program ends that may run for `limitMs` milliseconds. -/
def ending (p : Performance) (limitMs : Nat) : Ending :=
  if limitMs ≤ p.sleepMs then .overran
  else .ended (p.status.map exitCode) p.stdout p.stderr

end Performance

/-- A machine in memory. -/
structure Sandbox where
  directory : Directory := {}
  /-- The names of the programs that can be started. -/
  programs : List String := []
  rules : List (Rule Performance) := []
  /-- The programs started so far, each followed by its arguments. -/
  calls : List (List String) := []
  /-- The lines printed so far. -/
  printed : List String := []

namespace Sandbox

/-- The reason why a program that is not among the programs of the sandbox cannot be started: a path
leads to a file or a directory that is no program, or nowhere. -/
def refusal (s : Sandbox) (program : String) : FileFault :=
  if program.toList.contains '/' then
    match s.directory.lookup program with
    | .ok _ => .permissionDenied
    | .error fault => fault
  else .notFound

/-- Starts a program. -/
def start (i : Invocation) : StateM Sandbox Ending := fun s =>
  if (i.program :: i.arguments).any (·.toList.contains '\x00') then
    (.notStarted "nul byte found in provided data", s)
  else if s.programs.contains i.program then
    let (performance, rules) := Rule.answer (i.arguments.getLastD "") s.rules
    ((performance.getD {}).ending i.limitMs,
      { s with rules := rules, calls := s.calls ++ [i.program :: i.arguments] })
  else (.notStarted (s.refusal i.program).message, s)

/-- Carries an action out. -/
def perform : (action : Action) → StateM Sandbox action.Reply
  | .start invocation => start invocation
  | .print line => fun s => ((), { s with printed := s.printed ++ [line] })
  | .probe path => fun s => ((s.directory.lookup path).toOption.isSome, s)
  | .read path => fun s => (s.directory.read path, s)
  | .write path text => fun s =>
    match s.directory.write path text with
    | .ok directory => (.ok (), { s with directory := directory })
    | .error fault => (.error fault, s)

end Sandbox

end Testbed.Host

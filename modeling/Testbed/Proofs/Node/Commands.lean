import Testbed.Node.Resources
import Testbed.Proofs.Node.Memory
import Testbed.Proofs.Shell.Reader

/-!
# The operations on a node as commands

An operation on a node hands over one line, and a shell understands the line as the command that the
operation stands for: each operand is the text that was given, whatever it holds, and there is nothing
besides.

* `Hands op r`: all that the operation hands over is the request.
* `IsCommand op elevated command`: what it hands over is understood as the command.

Results:
* `hands_script`: an operation that is one request hands over this one.
* `isCommand_perform`, `isCommand_perform_into`: a change whose text spells a command is this command.
* `understood_inside`: a directory is changed to and left out of the command.

Headline: **`operations_understood`**: all the operations with operands are commands.
-/

namespace Testbed.Node

open Shell (reading spelled understood quote startsCommand)

variable {α β ε F σ : Type}

/-! ## What is handed over -/

/-- All that an operation hands over is a request, whatever is answered, and nothing if the result of
that is remembered. -/
def Hands (op : NodeScript ε α) (r : Request) : Prop :=
  ∀ (σ : Type) (exec : Request → StateM σ Answer) (cache : Cache) (st : σ),
    (op.runOn (watched exec) cache (st, [])).2.2 =
      match cache.recalled? r with
      | some _ => []
      | none => [(r, (exec r st).1)]

/-- A shell understands what an operation hands over as this command, and finds nothing besides. -/
def IsCommand (op : NodeScript ε α) (elevated : Bool) (command : Shell.Command) : Prop :=
  ∃ r, Hands op r ∧ r.elevated = elevated ∧ understood elevated r.line = some (command, none)

theorem hands_script (turn : Plan.Turn F ε) : Hands turn.script turn.request := by
  intro σ exec cache st
  rw [runOn_turn, serve_eq]
  cases cache.recalled? turn.request <;> rfl

/-- What is made of a result is not handed over. -/
theorem hands_script_bind (turn : Plan.Turn F ε) (f : F → β) :
    Hands (turn.script >>= fun facts => pure (f facts)) turn.request := by
  have hscript : (turn.script >>= fun facts => pure (f facts)) =
      Plan.Turn.script ⟨turn.request, fun answer => (turn.judge answer).bind fun a => .ok (f a)⟩ :=
    Plan.script_bind_mk turn fun a => .ok (f a)
  rw [hscript]
  exact hands_script _

theorem hands_perform (command : String) (elevated : Bool) :
    Hands (perform command elevated) (change command elevated) := by
  rw [perform, Plan.executeChecked_eq]
  exact hands_script_bind _ fun _ => ()

theorem hands_readText (path : String) (elevated forced : Bool) :
    Hands (readText path elevated forced)
      ⟨"cat " ++ quote path, elevated, forced, none, none⟩ := by
  rw [readText, Plan.executeChecked_eq]
  exact hands_script_bind _ Output.stdout

theorem hands_isPresent (path : String) (elevated : Bool) :
    Hands (isPresent path elevated) (Plan.probeRequest path elevated) := by
  rw [Plan.isPresent_eq]
  exact hands_script _

/-! ## What is understood -/

/-- An operation that hands over a text that is read as a command is this command. -/
theorem Hands.isCommand {op : NodeScript ε α} {r : Request} {command : Shell.Command}
    (h : Hands op r) (hreading : reading r.body = some (command, none)) :
    IsCommand op r.elevated command :=
  ⟨r, h, rfl, (Shell.understood_line r).trans hreading⟩

section

variable (name : String) (hfirst : startsCommand name = true) (operands : List String)
  (elevated : Bool)
include hfirst

/-- A change whose text spells words is the command of these words. -/
theorem isCommand_perform :
    IsCommand (perform (spelled (name :: operands)) elevated) elevated ⟨name :: operands, []⟩ :=
  (hands_perform _ elevated).isCommand (Shell.reading_spelled name hfirst operands)

/-- The same with a file that the output goes to. -/
theorem isCommand_perform_into (path : String) :
    IsCommand (perform (spelled (name :: operands) ++ " > " ++ quote path) elevated) elevated
      ⟨name :: operands, [path]⟩ :=
  (hands_perform _ elevated).isCommand (Shell.reading_spelled_into name hfirst operands path)

end

/-- **A directory is changed to**, and the command follows as it is. -/
theorem understood_inside (r : Request) (directory : String) :
    understood r.elevated { r with directory := some directory }.line =
      some (⟨["cd", directory], []⟩, some (" " ++ r.command)) := by
  have hbody : { r with directory := some directory }.body =
      spelled ["cd", directory] ++ " &&" ++ (" " ++ r.command) := by
    show "cd " ++ quote directory ++ " && " ++ r.command = _
    have hspelled : spelled ["cd", directory] = "cd " ++ quote directory := rfl
    rw [hspelled, String.append_assoc, String.append_assoc, String.append_assoc]
    rfl
  have hline := Shell.understood_line { r with directory := some directory }
  rw [hbody, Shell.reading_spelled_and _ (by decide)] at hline
  exact hline

/-- **The operations on a node are commands**: on any node, whatever it remembers and answers, each
hands over one line, which is understood as one program with the operands that were given, and with
nothing besides; and the line of a request in a directory is understood as a change to just this
directory, behind which the command is as it was. -/
theorem operations_understood :
    (∀ path elevated, IsCommand (isPresent path elevated) elevated ⟨["test", "-e", path], []⟩) ∧
    (∀ path elevated forced, IsCommand (readText path elevated forced) elevated
      ⟨["cat", path], []⟩) ∧
    (∀ path content elevated, IsCommand (writeFile path content elevated) elevated
      ⟨["printf", "%s", content], [path]⟩) ∧
    (∀ path elevated, IsCommand (removeFile path elevated) elevated ⟨["rm", "-f", path], []⟩) ∧
    (∀ path elevated, IsCommand (removeTree path elevated) elevated ⟨["rm", "-rf", path], []⟩) ∧
    (∀ path elevated, IsCommand (makeDirectory path elevated) elevated
      ⟨["mkdir", "-p", path], []⟩) ∧
    (∀ path mode elevated, IsCommand (changeModes path mode elevated) elevated
      ⟨["chmod", "-R", mode, path], []⟩) ∧
    (∀ key value, IsCommand (setParameter key value) true
      ⟨["sysctl", "-w", key ++ "=" ++ value], []⟩) ∧
    ∀ (r : Request) (directory : String),
      understood r.elevated { r with directory := some directory }.line =
        some (⟨["cd", directory], []⟩, some (" " ++ r.command)) := by
  refine ⟨?_, ?_, ?_, ?_, ?_, ?_, ?_, ?_, understood_inside⟩
  · intro path elevated
    exact (hands_isPresent path elevated).isCommand
      (Shell.reading_spelled "test" (by decide) ["-e", path])
  · intro path elevated forced
    exact (hands_readText path elevated forced).isCommand
      (Shell.reading_spelled "cat" (by decide) [path])
  · intro path content elevated
    exact isCommand_perform_into "printf" (by decide) ["%s", content] elevated path
  · intro path elevated
    exact isCommand_perform "rm" (by decide) ["-f", path] elevated
  · intro path elevated
    exact isCommand_perform "rm" (by decide) ["-rf", path] elevated
  · intro path elevated
    exact isCommand_perform "mkdir" (by decide) ["-p", path] elevated
  · intro path mode elevated
    exact isCommand_perform "chmod" (by decide) ["-R", mode, path] elevated
  · intro key value
    exact isCommand_perform "sysctl" (by decide) ["-w", key ++ "=" ++ value] true

end Testbed.Node

import Testbed.CommandLine.Program
import Testbed.Proofs.Script

/-!
# The course of a task

What a task of the command line does on a machine, told from its parts. The machine is anything with a
state: `answer` carries actions out.

* `node`: the node at the end of a way, as it is seen through the programs that the machine starts.
* `after`: the machine after some actions.

Results:
* `goes_andThen`, `goes_failed`: the course of tasks in sequence.
* `goes_carryOut`: carrying requests out starts programs, and comes to what the node answers.
-/

namespace Testbed

/-- An action that only looks at a file. -/
def Host.Action.Looks : Host.Action → Prop
  | .probe _ | .read _ => True
  | .start _ | .print _ | .write .. => False

/-- An action that starts a program. -/
def Host.Action.Starts : Host.Action → Prop
  | .start _ => True
  | .print _ | .probe _ | .read _ | .write .. => False

namespace CommandLine

open Host (Action)
open Script (Goes goes_bind goes_bind_done goes_done goes_question)

variable {ω α β ε : Type} (answer : (action : Action) → StateM ω action.Reply)

/-- The node at the end of a way. -/
def node (way : Transport) : Request → StateM ω Answer :=
  way.execute fun invocation => answer (.start invocation)

/-- The machine after some actions. -/
def after (actions : List Action) (w : ω) : ω := actions.foldl (fun w action => (answer action w).2) w

variable {answer} {w w₁ w₂ : ω} {ops more : List Action} {a : α}

theorem after_append (ops more : List Action) (w : ω) :
    after answer (ops ++ more) w = after answer more (after answer ops w) := List.foldl_append

/-! ## Tasks in sequence -/

section
variable {x : Task α} {f : α → Task β} {result : Except Failure β} {failure : Failure}

theorem goes_andThen (hx : Goes answer x.run w ops (.ok a) w₁)
    (hf : Goes answer (f a).run w₁ more result w₂) :
    Goes answer (x >>= f).run w (ops ++ more) result w₂ := goes_bind hx hf

/-- What is known already is no action. -/
theorem goes_decided_andThen {failure : ε → Failure} {outcome : Except ε α} (h : outcome = .ok a)
    (hf : Goes answer (f a).run w more result w₂) :
    Goes answer (decided failure outcome >>= f).run w more result w₂ := by
  rw [h]
  exact hf

theorem goes_decided_failed {failure : ε → Failure} {outcome : Except ε α} {e : ε}
    (h : outcome = .error e) (w : ω) :
    Goes answer (decided failure outcome >>= f).run w [] (.error (failure e)) w := by
  rw [h]
  exact goes_done _ _

theorem goes_failed (hx : Goes answer x.run w ops (.error failure) w₁) :
    Goes answer (x >>= f).run w ops (.error failure) w₁ := goes_bind_done hx rfl

end

theorem goes_decided (failure : ε → Failure) (outcome : Except ε α) (w : ω) :
    Goes answer (decided failure outcome).run w [] (outcome.mapError failure) w := goes_done _ _

theorem goes_always {s : HostScript α} (h : Goes answer s w ops a w₁) :
    Goes answer (always s).run w ops (.ok a) w₁ := goes_bind_done h rfl

theorem goes_attempt {failure : ε → Failure} {s : HostScript (Except ε α)} {outcome : Except ε α}
    (h : Goes answer s w ops outcome w₁) :
    Goes answer (attempt failure s).run w ops (outcome.mapError failure) w₁ :=
  goes_bind_done (goes_always h) rfl

/-! ## Actions -/

theorem goes_print (line : String) (w : ω) :
    Goes answer (Host.print line) w [.print line] () (answer (.print line) w).2 :=
  goes_question (Action.print line) w

theorem goes_printAll (lines : List String) (w : ω) :
    Goes answer (lines.forM Host.print) w (lines.map .print) () (after answer (lines.map .print) w) := by
  induction lines generalizing w with
  | nil => exact goes_done _ _
  | cons line lines ih => exact goes_bind (goes_print line w) (ih _)

/-! ## Requests -/

theorem goes_serve (way : Transport) (r : Request) (cache : Cache) (w : ω) :
    ∃ starts : List Action, (∀ action ∈ starts, action.Starts) ∧
      Goes answer (Node.serve (way.execute Host.start) r cache) w starts
        (Node.serve (node answer way) r cache w).1 (Node.serve (node answer way) r cache w).2 := by
  unfold Node.serve
  cases if r.forced then none else cache.find? r.line with
  | some output => exact ⟨[], nofun, goes_done _ _⟩
  | none =>
    refine ⟨[.start (way.invocation r)], List.forall_mem_singleton.mpr trivial, ?_⟩
    have hstart : Goes answer (way.execute Host.start r) w [.start (way.invocation r)]
        (node answer way r w).1 (node answer way r w).2 := ⟨rfl, rfl⟩
    refine goes_bind hstart ?_
    simp only [bind, StateT.bind]
    generalize node answer way r w = answered
    obtain ⟨_ | _, _⟩ := answered <;> exact goes_done _ _

/-- **Carrying requests out** starts programs, and comes to what the node at the end of the way answers
to them. -/
theorem goes_carryOut (way : Transport) (requests : Requests α) (cache : Cache) (w : ω) :
    ∃ starts : List Action, (∀ action ∈ starts, action.Starts) ∧
      Goes answer ((carryOut way requests).run cache) w starts
        (requests.run (Node.serve (node answer way)) cache w).1
        (requests.run (Node.serve (node answer way)) cache w).2 := by
  induction requests generalizing cache w with
  | done a => exact ⟨[], nofun, goes_done _ _⟩
  | ask r resume ih =>
    obtain ⟨first, hfirst, hserve⟩ := @goes_serve ω answer way r cache w
    have hrun : (Script.ask r resume).run (Node.serve (node answer way)) cache w =
        (resume (Node.serve (node answer way) r cache w).1.1).run (Node.serve (node answer way))
          (Node.serve (node answer way) r cache w).1.2 (Node.serve (node answer way) r cache w).2 := rfl
    rw [hrun]
    obtain ⟨more, hmore, hresume⟩ := ih (Node.serve (node answer way) r cache w).1.1
      (Node.serve (node answer way) r cache w).1.2 (Node.serve (node answer way) r cache w).2
    exact ⟨first ++ more, List.forall_mem_append.mpr ⟨hfirst, hmore⟩, goes_bind hserve hresume⟩

end CommandLine

end Testbed

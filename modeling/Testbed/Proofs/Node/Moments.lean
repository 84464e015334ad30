import Testbed.Proofs.Node.FileStore
import Testbed.Proofs.Script

/-!
# The moments of a run on a node that keeps files

Result: `passes_turn_bind`: a turn on a node that keeps files either fails, and leaves the files alone, or
is carried out.
-/

namespace Testbed

namespace Node

variable {F α ε : Type} {turn : Plan.Turn F ε} {f : F → NodeScript ε α} {m : Machine}
  {hidden : List String} {schedule : Schedule} {cache : Cache} {w : World} {I : Cache × World → Prop}
  {ends : Except ε α → Cache × World → Prop}

/-- A forced request reaches the world, and the memory stays as it is. -/
theorem serving_of_forced {σ : Type} {exec : Request → StateM σ Answer} {st : σ} {r : Request}
    (h : r.forced = true) :
    serving exec r (cache, st) = ((exec r st).1, (cache, (exec r st).2)) := by
  rw [serving, serve_of_forced h]

/-- A command that has to end well fails if it has no effect. -/
theorem judge_must_failure_ne_ok {wrap : NodeError → ε} {r : Request} {facts facts' : F}
    (failure : Failure) : (Plan.must wrap r facts).judge failure.answer ≠ .ok facts' := fun h => by
  obtain ⟨output, hchecked, -⟩ := Plan.judge_of_eq_ok_iff.mp h
  exact checked_failure_ne_ok hchecked

theorem judge_note_failure_ne_ok {wrap : NodeError → ε} {r : Request} {read : String → Except ε F}
    {facts : F} (failure : Failure) : (Plan.note wrap r read).judge failure.answer ≠ .ok facts :=
  fun h => by
    obtain ⟨output, hchecked, -⟩ := Plan.judge_of_eq_ok_iff.mp h
    exact checked_failure_ne_ok hchecked

theorem judge_probe_failure_ne_ok {wrap : NodeError → ε} {path : String} {elevated : Bool}
    {tell : Bool → Except ε F} {facts : F} (failure : Failure) :
    (Plan.probe wrap path elevated tell).judge failure.answer ≠ .ok facts := fun h => by
  obtain ⟨present, hprobed, -⟩ := Plan.judge_of_eq_ok_iff.mp h
  exact probed_failure_ne_ok hprobed

/-- **A turn on a node that keeps files**: its command fails, and then the run ends there with the files
as they were; or it is carried out, and the run goes on. -/
theorem passes_turn_bind (hforced : turn.request.forced = true) (hI : I (cache, w))
    (hfail : ∀ (failure : Failure) facts, turn.judge failure.answer ≠ .ok facts)
    (hstop : ∀ failure e, schedule w.log (w.store.without hidden) turn.request = some failure →
      I (cache, ⟨w.store, w.log ++ [(turn.request, failure.answer)]⟩) ∧
        ends (.error e) (cache, ⟨w.store, w.log ++ [(turn.request, failure.answer)]⟩))
    {facts : F} {output : Output} {store : Store} (hact : m.act turn.request w.store = (output, store))
    (hjudge : turn.judge (.ok output) = .ok facts)
    (hgo : (f facts).run.Passes (serving (m.execute hidden schedule)) I ends
      (cache, ⟨store, w.log ++ [(turn.request, .ok output)]⟩)) :
    (turn.script >>= f).run.Passes (serving (m.execute hidden schedule)) I ends (cache, w) := by
  rw [Plan.run_turn_bind]
  refine ⟨hI, ?_⟩
  rw [serving_of_forced hforced]
  cases hw : schedule w.log (w.store.without hidden) turn.request with
  | some failure =>
    rw [execute_of_failure hw]
    cases hjudge : turn.judge failure.answer with
    | ok facts => exact absurd hjudge (hfail failure facts)
    | error e =>
      simp only [hjudge]
      exact hstop failure e hw
  | none =>
    rw [execute_of_none hw, hact]
    simp only [hjudge]
    exact hgo

end Node

end Testbed

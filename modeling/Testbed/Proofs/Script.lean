import Testbed.Script

/-!
# The course of a run

A run may be cut off at any point, so it matters what holds all the way, and not only at the end.

* `moments`: the states that a run goes through, the first and the last included.
* `Passes`: a run goes only through states with a property, and ends as is said.
* `asked`: the questions that are put in a run.
* `Goes`: a run puts these questions, and ends with this result in that state.

Results: `passes_bind`, `goes_bind`: a run in sequence goes on where the first part ends.
-/

namespace Testbed

namespace Script

variable {Op : Type} {Reply : Op → Type} {α β σ : Type} {answer : (op : Op) → StateM σ (Reply op)}
  {I : σ → Prop} {mid : α → σ → Prop} {ends : β → σ → Prop} {st : σ}

/-- The states that a run goes through, the first and the last included. -/
def moments (answer : (op : Op) → StateM σ (Reply op)) : Script Op Reply α → σ → List σ
  | done _, st => [st]
  | ask op resume, st => st :: (resume (answer op st).1).moments answer (answer op st).2

/-- A run goes only through states with a property, and ends as is said. -/
def Passes (answer : (op : Op) → StateM σ (Reply op)) (I : σ → Prop) (ends : α → σ → Prop) :
    Script Op Reply α → σ → Prop
  | done a, st => I st ∧ ends a st
  | ask op resume, st => I st ∧ (resume (answer op st).1).Passes answer I ends (answer op st).2

theorem Passes.moments {s : Script Op Reply α} (h : s.Passes answer I mid st) :
    ∀ x ∈ s.moments answer st, I x := by
  induction s generalizing st with
  | done a => exact List.forall_mem_singleton.mpr h.1
  | ask op resume ih => exact List.forall_mem_cons.mpr ⟨h.1, ih _ h.2⟩

theorem Passes.run {s : Script Op Reply α} (h : s.Passes answer I mid st) :
    mid (s.run answer st).1 (s.run answer st).2 := by
  induction s generalizing st with
  | done a => exact h.2
  | ask op resume ih => exact ih _ h.2

theorem Passes.imp {mid' : α → σ → Prop} {s : Script Op Reply α} (h : s.Passes answer I mid st)
    (himp : ∀ a st, mid a st → mid' a st) : s.Passes answer I mid' st := by
  induction s generalizing st with
  | done a => exact ⟨h.1, himp a st h.2⟩
  | ask op resume ih => exact ⟨h.1, ih _ h.2⟩

theorem passes_bind {s : Script Op Reply α} {f : α → Script Op Reply β} (hs : s.Passes answer I mid st)
    (hf : ∀ a st', mid a st' → (f a).Passes answer I ends st') :
    (s >>= f).Passes answer I ends st := by
  induction s generalizing st with
  | done a => exact hf a st hs.2
  | ask op resume ih => exact ⟨hs.1, ih _ hs.2⟩

/-! ## Questions -/

/-- The questions that are put in a run. -/
def asked (answer : (op : Op) → StateM σ (Reply op)) : Script Op Reply α → σ → List Op
  | done _, _ => []
  | ask op resume, st => op :: (resume (answer op st).1).asked answer (answer op st).2

/-- A run that puts these questions, and ends with this result in that state. -/
structure Goes (answer : (op : Op) → StateM σ (Reply op)) (s : Script Op Reply α) (st : σ)
    (ops : List Op) (a : α) (st' : σ) : Prop where
  run : s.run answer st = (a, st')
  asked : s.asked answer st = ops

variable {s : Script Op Reply α} {f : α → Script Op Reply β} {a : α} {b : β} {ops more : List Op}
  {st' st'' : σ}

theorem goes_done (a : α) (st : σ) : Goes answer (done a : Script Op Reply α) st [] a st := ⟨rfl, rfl⟩

theorem goes_question (op : Op) (st : σ) :
    Goes answer (question op : Script Op Reply (Reply op)) st [op] (answer op st).1 (answer op st).2 :=
  ⟨rfl, rfl⟩

theorem goes_bind (hs : Goes answer s st ops a st') (hf : Goes answer (f a) st' more b st'') :
    Goes answer (s >>= f) st (ops ++ more) b st'' := by
  induction s generalizing st ops with
  | done a' =>
    obtain ⟨hrun, rfl⟩ := hs
    obtain ⟨rfl, rfl⟩ := Prod.ext_iff.mp hrun
    exact hf
  | ask op resume ih =>
    obtain ⟨hrun, rfl⟩ := hs
    obtain ⟨hrun', hasked'⟩ := ih (answer op st).1 ⟨hrun, rfl⟩
    exact ⟨hrun', congrArg (op :: ·) hasked'⟩

theorem goes_bind_done (hs : Goes answer s st ops a st') (hf : f a = done b) :
    Goes answer (s >>= f) st ops b st' := by
  rw [← List.append_nil ops]
  refine goes_bind hs ?_
  rw [hf]
  exact goes_done b st'

end Script

end Testbed

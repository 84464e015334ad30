/-!
# Scripts: computations that ask

A `Script` is a computation that may put questions to the world, each chosen from the answers to
the ones before: either it is done, or it asks and goes on with the answer. What the questions are
and what answers each takes are parameters, so one type serves commands for a node and the actions
of the command line. `run` carries a script out with any way of answering.

Scripts are data, so what one asks can be compared with a plan, whoever answers.
-/

namespace Testbed

/-- A computation that asks questions in `Op`, each answered in its `Reply`. -/
inductive Script (Op : Type) (Reply : Op → Type) (α : Type) where
  | done (result : α)
  | ask (op : Op) (resume : Reply op → Script Op Reply α)

namespace Script

variable {Op : Type} {Reply : Op → Type} {α β : Type}

/-- Goes on with the result of a script. -/
protected def bind : Script Op Reply α → (α → Script Op Reply β) → Script Op Reply β
  | done a, f => f a
  | ask op resume, f => ask op fun reply => (resume reply).bind f

instance : Monad (Script Op Reply) where
  pure := done
  bind := Script.bind

/-- Asks one question. -/
def question (op : Op) : Script Op Reply (Reply op) := ask op done

/-- Carries a script out, with `answer` answering its questions. -/
def run {m : Type → Type} [Monad m] (answer : (op : Op) → m (Reply op)) :
    Script Op Reply α → m α
  | done a => pure a
  | ask op resume => do
    let reply ← answer op
    (resume reply).run answer

/-! ## Laws -/

@[simp] theorem done_bind (a : α) (f : α → Script Op Reply β) : done a >>= f = f a := rfl

@[simp] theorem ask_bind (op : Op) (resume : Reply op → Script Op Reply α)
    (f : α → Script Op Reply β) :
    ask op resume >>= f = ask op fun reply => resume reply >>= f := rfl

instance : LawfulMonad (Script Op Reply) :=
  .mk' _
    (fun s => by
      induction s with
      | done a => rfl
      | ask op resume ih => exact congrArg (ask op) (funext ih))
    (fun _ _ => rfl)
    (fun s f g => by
      induction s with
      | done a => rfl
      | ask op resume ih => exact congrArg (ask op) (funext ih))

variable {m : Type → Type} [Monad m]

@[simp] theorem run_done (answer : (op : Op) → m (Reply op)) (a : α) :
    (done a).run answer = pure a := rfl

/-- **Running in sequence**: a script that goes on with another runs the one, then the other. -/
theorem run_bind [LawfulMonad m] (answer : (op : Op) → m (Reply op)) (s : Script Op Reply α)
    (f : α → Script Op Reply β) :
    (s >>= f).run answer = s.run answer >>= fun a => (f a).run answer := by
  induction s with
  | done a => simp
  | ask op resume ih => simp [run, ih]

end Script

end Testbed

import Testbed.Proofs.Node.Asking

/-!
# A world that always answers the same

A world may answer each request in a way of its own that never changes. What a script comes to is then
told by the function that answers. On a node that remembers something, it is told by another such
function: what is remembered stands in for the answer.

* `answering f`: the world that answers by a function.
* `outcome f x`: what a script comes to.
* `recalling cache f`: the answers of a node that remembers something.

Results:
* `outcome_bind` and the like: the outcome of scripts in sequence; `outcome_bind_eq_ok_iff`: when they
  end well.
* `outcome_congr`: only the answers to what a script may ask matter.
* `runOn_answering`: **a node with a memory** comes to the outcome with its memory standing in.
-/

namespace Testbed.Node

variable {α β ε δ F : Type} {P : Request → Prop} {f g : Request → Answer} {x : NodeScript ε α}
  {k : α → NodeScript ε β} {cache : Cache} {r : Request}

/-- A world that answers by a function. -/
def answering (f : Request → Answer) : Request → StateM Unit Answer := fun r => pure (f r)

/-- What a script comes to that is answered by a function. -/
def outcome (f : Request → Answer) (x : NodeScript ε α) : Except ε α := Script.run (m := Id) f x.run

/-- What a node answers that remembers something, where the world answers by a function. -/
def recalling (cache : Cache) (f : Request → Answer) (r : Request) : Answer :=
  match cache.recalled? r with
  | some output => .ok output
  | none => f r

/-! ## Outcomes -/

theorem outcome_mk (result : Except ε α) :
    outcome f (ExceptT.mk (pure result) : NodeScript ε α) = result := rfl

theorem outcome_bind (f : Request → Answer) (x : NodeScript ε α) (k : α → NodeScript ε β) :
    outcome f (x >>= k) = (outcome f x).bind fun a => outcome f (k a) := by
  have hrun : outcome f (x >>= k) = Script.run (m := Id) f
      (x.run >>= fun result => (ExceptT.bindCont k result : Requests (Except ε β))) := rfl
  rw [hrun, Script.run_bind]
  show Script.run (m := Id) f (ExceptT.bindCont k (outcome f x)) = _
  cases outcome f x <;> rfl

theorem outcome_bind_eq_ok_iff {b : β} :
    outcome f (x >>= k) = .ok b ↔ ∃ a, outcome f x = .ok a ∧ outcome f (k a) = .ok b := by
  rw [outcome_bind]
  cases outcome f x with
  | error e =>
    constructor
    · rintro ⟨⟩
    · rintro ⟨_, ⟨⟩, -⟩
  | ok a =>
    constructor
    · exact fun h => ⟨a, rfl, h⟩
    · rintro ⟨_, ⟨⟩, h⟩
      exact h

/-- The same where the first script comes to nothing but its end. -/
theorem outcome_seq_eq_ok_iff {x : NodeScript ε Unit} {y : NodeScript ε β} {b : β} :
    outcome f (x >>= fun _ => y) = .ok b ↔ outcome f x = .ok () ∧ outcome f y = .ok b := by
  rw [outcome_bind_eq_ok_iff]
  constructor
  · rintro ⟨⟨⟩, hx, hy⟩
    exact ⟨hx, hy⟩
  · exact fun h => ⟨(), h⟩

theorem outcome_adapt (wrap : ε → δ) (x : NodeScript ε α) :
    outcome f (ExceptT.adapt wrap x) = (outcome f x).mapError wrap := by
  have hrun : outcome f (ExceptT.adapt wrap x) = Script.run (m := Id) f
      (x.run >>= fun result => pure (result.mapError wrap)) := by
    rw [outcome, ExceptT.run_adapt, map_eq_pure_bind]
  rw [hrun, Script.run_bind]
  rfl

theorem outcome_adapt_eq_ok_iff {wrap : ε → δ} {a : α} :
    outcome f (ExceptT.adapt wrap x) = .ok a ↔ outcome f x = .ok a := by
  rw [outcome_adapt]
  cases outcome f x with
  | error e =>
    constructor
    · rintro ⟨⟩
    · rintro ⟨⟩
  | ok b =>
    constructor
    · rintro ⟨⟩
      rfl
    · rintro ⟨⟩
      rfl

theorem outcome_forM_eq_ok_iff {op : β → NodeScript ε Unit} {bs : List β} :
    outcome f (bs.forM op) = .ok () ↔ ∀ b ∈ bs, outcome f (op b) = .ok () := by
  induction bs with
  | nil => exact iff_of_true rfl fun _ hb => absurd hb List.not_mem_nil
  | cons b bs ih => rw [List.forM, outcome_seq_eq_ok_iff, ih, List.forall_mem_cons]

theorem outcome_script (turn : Plan.Turn F ε) :
    outcome f turn.script = turn.judge (f turn.request) := rfl

/-- A command that has to end well. -/
theorem outcome_executeChecked_eq_ok_iff {output : Output} :
    outcome f (executeChecked r) = .ok output ↔ f r = .ok output ∧ output.exitCode = 0 := by
  rw [Plan.executeChecked_eq, outcome_script]
  show Plan.checked r (f r) = _ ↔ _
  cases f r with
  | error e =>
    constructor
    · rintro ⟨⟩
    · rintro ⟨⟨⟩, -⟩
  | ok result =>
    show (if result.exitCode = 0 then _ else _) = _ ↔ _
    split
    · rename_i hexit
      constructor
      · rintro ⟨⟩
        exact ⟨rfl, hexit⟩
      · rintro ⟨⟨⟩, -⟩
        rfl
    · rename_i hexit
      constructor
      · rintro ⟨⟩
      · rintro ⟨⟨⟩, hzero⟩
        exact absurd hzero hexit

/-- Only the answers to what a script may ask matter. -/
theorem outcome_congr (h : AsksOnly P x) (hfg : ∀ r, P r → f r = g r) : outcome f x = outcome g x := by
  have hscript : ∀ s : Requests (Except ε α), Asks P s →
      Script.run (m := Id) f s = Script.run (m := Id) g s := by
    intro s hs
    induction s with
    | done a => rfl
    | ask r resume ih =>
      show Script.run (m := Id) f (resume (f r)) = Script.run (m := Id) g (resume (g r))
      rw [hfg r hs.1]
      exact ih _ (hs.2 _)
  exact hscript x.run h

/-! ## A node with a memory -/

theorem recalling_of_forced (h : r.forced = true) : recalling cache f r = f r := by
  rw [recalling, Cache.recalled?, if_pos h]

theorem recalling_empty (f : Request → Answer) : recalling {} f = f := by
  funext r
  rw [recalling, Cache.recalled?]
  cases r.forced <;> rfl

/-- What a script forces is asked of the world. -/
theorem outcome_recalling_of_forced (h : AsksOnly Forced x) :
    outcome (recalling cache f) x = outcome f x :=
  outcome_congr h fun _ => recalling_of_forced

/-- What is learnt of an answer changes no answer. -/
theorem recalling_learn {r' : Request} (hrecall : cache.recalled? r = none)
    (hsame : r.forced = false → r'.forced = false → r.line = r'.line → f r = f r') :
    recalling (cache.learn r (f r)) f r' = recalling cache f r' := by
  cases hanswer : f r with
  | error e => rfl
  | ok output =>
    cases hforced : r.forced with
    | true => rw [Cache.learn_of_forced hforced]
    | false =>
      cases hforced' : r'.forced with
      | true => rw [recalling_of_forced hforced', recalling_of_forced hforced']
      | false =>
        have hlearn : cache.learn r (.ok output) = cache.remember r.line output := by
          rw [Cache.learn, hforced]
          rfl
        rw [hlearn, recalling, recalling, Cache.recalled?, Cache.recalled?, hforced']
        by_cases hline : r.line = r'.line
        · have hnone : cache.find? r'.line = none := by
            rw [Cache.recalled?, hforced] at hrecall
            exact hline ▸ hrecall
          have hfound : (cache.remember r.line output).find? r'.line = some output := by
            rw [Cache.find?, Cache.remember, List.lookup_append, ← Cache.find?, hnone, hline]
            simp
          simp only [Bool.false_eq_true, if_false, hfound, hnone]
          exact hanswer.symm.trans (hsame hforced hforced' hline)
        · simp only [Bool.false_eq_true, if_false, find?_remember (Ne.symm hline)]

/-- **A node with a memory** comes to what its script comes to with the memory standing in, if what
may be asked without force is answered alike where the lines are the same. -/
theorem runOn_answering (h : AsksOnly P x)
    (hsame : ∀ r r', P r → P r' → r.forced = false → r'.forced = false → r.line = r'.line →
      f r = f r') :
    (x.runOn (answering f) cache ()).1.1 = outcome (recalling cache f) x := by
  -- The memory grows on the way, but never in a way that changes the answer to what may be asked.
  have hscript : ∀ (s : Requests (Except ε α)) (cache : Cache), Asks P s →
      (s.run (serve (answering f)) cache ()).1.1 = Script.run (m := Id) (recalling cache f) s := by
    intro s
    induction s with
    | done a => exact fun _ _ => rfl
    | ask r resume ih =>
      intro cache hs
      have hrun : (Script.ask r resume).run (serve (answering f)) cache () =
          (resume (serve (answering f) r cache ()).1.1).run (serve (answering f))
            (serve (answering f) r cache ()).1.2 () := rfl
      rw [hrun, serve_eq]
      show _ = Script.run (m := Id) (recalling cache f) (resume (recalling cache f r))
      rw [recalling]
      cases hrecall : cache.recalled? r with
      | some output => exact ih _ cache (hs.2 _)
      | none =>
        have hlearnt : ∀ r', P r' → recalling (cache.learn r (f r)) f r' = recalling cache f r' :=
          fun r' hr' => recalling_learn hrecall (hsame r r' hs.1 hr')
        show ((resume (f r)).run (serve (answering f)) (cache.learn r (f r)) ()).1.1 = _
        rw [ih _ _ (hs.2 _)]
        exact @outcome_congr _ _ P _ _ (ExceptT.mk (resume (f r))) (hs.2 _) hlearnt
  exact hscript x.run cache h

end Testbed.Node

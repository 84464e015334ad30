import Testbed.Node.Session

/-!
# What is asked, and what is answered

A run of a script is told apart into the script and the world it runs in, both of which know nothing
but the exchanges between them: requests with their answers. The world is anything with a state: what
it answers may depend on all that it was asked before.

* `Plays s t a`: a script that is given the answers of the exchanges `t` puts their requests, in this
  order and no others, and ends with `a`.
* `Conversation ask st t st'`: a world in the state `st` that is put the requests of `t` gives their
  answers, and is left in the state `st'`.
* `serving exec`: a node as such a world, made of one that runs commands (`exec`) and of a memory.

Results:
* `run_eq_iff`: a run is a conversation that the script plays.
* `serving_of_new`: a node passes on a request that is forced or whose line it does not remember.
* `Conversation.passed_on`: what a node is asked it passes on, if no line is remembered or repeated.
-/

namespace Testbed.Node

/-- A request and the answer to it. -/
abbrev Exchange := Request × Answer

/-- A script that is given the answers of the exchanges puts their requests and ends with a
result. -/
inductive Plays {α : Type} : Requests α → List Exchange → α → Prop
  | done (a : α) : Plays (.done a) [] a
  | ask {r : Request} {resume : Answer → Requests α} {answer : Answer} {t : List Exchange} {a : α}
      (h : Plays (resume answer) t a) : Plays (.ask r resume) ((r, answer) :: t) a

/-- A world that is put the requests of the exchanges gives their answers. -/
inductive Conversation {σ : Type} (ask : Request → StateM σ Answer) :
    σ → List Exchange → σ → Prop
  | nil (st : σ) : Conversation ask st [] st
  | cons {st st₁ st₂ : σ} {r : Request} {answer : Answer} {t : List Exchange}
      (h : ask r st = (answer, st₁)) (ht : Conversation ask st₁ t st₂) :
      Conversation ask st ((r, answer) :: t) st₂

/-- A node as a world of its own: its memory, and the world that runs commands for it. -/
def serving {σ : Type} (exec : Request → StateM σ Answer) (r : Request) :
    StateM (Cache × σ) Answer := fun (cache, st) =>
  let ((answer, cache), st) := serve exec r cache st
  (answer, (cache, st))

/-- Two requests of which the second is not answered with the remembered result of the first. -/
def Apart (r r' : Request) : Prop := r.forced = true ∨ r'.forced = true ∨ r.line ≠ r'.line

variable {α ε σ : Type} {ask exec : Request → StateM σ Answer} {st st' st₁ : σ}
  {t u : List Exchange} {r : Request} {answer : Answer} {cache cache' : Cache}

/-! ## Scripts and worlds -/

/-- **A run is a conversation**: a script comes to a result if and only if it plays exchanges that
the world takes part in. -/
theorem run_eq_iff {s : Requests α} {a : α} :
    s.run ask st = (a, st') ↔ ∃ t, Plays s t a ∧ Conversation ask st t st' := by
  induction s generalizing st with
  | done b =>
    constructor
    · intro h
      cases h
      exact ⟨[], .done _, .nil _⟩
    · rintro ⟨_, ⟨⟩, ⟨⟩⟩
      rfl
  | ask r resume ih =>
    have hrun : (Script.ask r resume).run ask st =
        (resume (ask r st).1).run ask (ask r st).2 := rfl
    rw [hrun, ih]
    constructor
    · rintro ⟨t, hp, hc⟩
      exact ⟨_, .ask hp, .cons rfl hc⟩
    · rintro ⟨_, _ | hp, _ | ⟨ha, hc⟩⟩
      rw [ha]
      exact ⟨_, hp, hc⟩

theorem plays_map_iff {β : Type} {s : Requests α} {f : α → β} {b : β} :
    Plays (f <$> s) t b ↔ ∃ a, Plays s t a ∧ b = f a := by
  induction s generalizing t with
  | done a =>
    have hmap : f <$> (.done a : Requests α) = .done (f a) := rfl
    rw [hmap]
    constructor
    · rintro ⟨⟩
      exact ⟨a, .done a, rfl⟩
    · rintro ⟨_, ⟨⟩, rfl⟩
      exact .done _
  | ask r resume ih =>
    have hmap : f <$> (.ask r resume : Requests α) = .ask r fun answer => f <$> resume answer := rfl
    rw [hmap]
    constructor
    · rintro (_ | h)
      obtain ⟨a, ha, rfl⟩ := (ih _).mp h
      exact ⟨a, .ask ha, rfl⟩
    · rintro ⟨a, _ | ha, rfl⟩
      exact .ask ((ih _).mpr ⟨a, ha, rfl⟩)

/-! ## The memory of a node -/

/-- A script that a node serves is a run with the node as its world. -/
theorem run_serve_eq (s : Requests α) (exec : Request → StateM σ Answer) (cache : Cache) (st : σ) :
    ((s.run (serve exec) cache st).1.1, ((s.run (serve exec) cache st).1.2,
      (s.run (serve exec) cache st).2)) = s.run (serving exec) (cache, st) := by
  induction s generalizing cache st with
  | done a => rfl
  | ask r resume ih =>
    have hrun : (Script.ask r resume).run (serve exec) cache st =
        (resume (serve exec r cache st).1.1).run (serve exec) (serve exec r cache st).1.2
          (serve exec r cache st).2 := rfl
    rw [hrun, ih]
    rfl

theorem run_serve_eq_iff {s : Requests α} {a : α} :
    s.run (serve exec) cache st = ((a, cache'), st') ↔
      ∃ t, Plays s t a ∧ Conversation (serving exec) (cache, st) t (cache', st') := by
  rw [← run_eq_iff, ← run_serve_eq]
  generalize s.run (serve exec) cache st = x
  obtain ⟨⟨_, _⟩, _⟩ := x
  constructor
  · rintro ⟨⟩
    rfl
  · rintro ⟨⟩
    rfl

theorem runOn_eq_iff {script : NodeScript ε α} {a : Except ε α} :
    script.runOn exec cache st = ((a, cache'), st') ↔
      ∃ t, Plays script.run t a ∧ Conversation (serving exec) (cache, st) t (cache', st') :=
  run_serve_eq_iff

/-- A script that a node serves goes on with the result of the one before. -/
theorem run_serve_bind {β : Type} {s : Requests α} {a : α} (f : α → Requests β)
    (h : s.run (serve exec) cache st = ((a, cache'), st')) :
    (s >>= f).run (serve exec) cache st = (f a).run (serve exec) cache' st' := by
  have hrun : (s >>= f).run (serve exec) cache st =
      (f (s.run (serve exec) cache st).1.1).run (serve exec) (s.run (serve exec) cache st).1.2
        (s.run (serve exec) cache st).2 := by
    rw [Script.run_bind]
    rfl
  rw [hrun, h]

theorem find?_remember {line line' : String} {output : Output} (h : line' ≠ line) :
    (cache.remember line output).find? line' = cache.find? line' := by
  have hne : (line' == line) = false := beq_eq_false_iff_ne.mpr h
  rw [Cache.find?, Cache.remember, List.lookup_append, List.lookup_cons, hne, List.lookup_nil,
    Option.or_none, Cache.find?]

/-- A request that is forced, or whose line is not remembered, is passed on. Its answer is
remembered, if it is, without force and for no other line. -/
theorem serving_of_new (exec : Request → StateM σ Answer) (cache : Cache) (st : σ)
    (h : r.forced = true ∨ cache.find? r.line = none) : ∃ cache',
      serving exec r (cache, st) = ((exec r st).1, (cache', (exec r st).2)) ∧
      ∀ line, r.forced = true ∨ line ≠ r.line → cache'.find? line = cache.find? line := by
  have hnone : (if r.forced then none else cache.find? r.line) = none := by
    rcases h with h | h
    · rw [if_pos h]
    · rw [h, ite_self]
  generalize hexec : exec r st = result
  obtain ⟨answer, st₁⟩ := result
  rw [serving, serve, hnone]
  cases answer with
  | error e =>
    refine ⟨cache, ?_, fun _ _ => rfl⟩
    simp only [bind, StateT.bind, hexec]
    rfl
  | ok output =>
    refine ⟨if r.forced then cache else cache.remember r.line output, ?_, fun line hline => ?_⟩
    · simp only [bind, StateT.bind, hexec]
      rfl
    · split
      · rfl
      · rename_i hforced
        exact find?_remember (hline.resolve_left hforced)

/-- **What a node passes on**: whatever is asked that is forced or not remembered, and not repeated
without force, is what the world behind the node is asked. -/
theorem Conversation.passed_on
    (h : Conversation (serving exec) (cache, st) t (cache', st'))
    (hnew : ∀ x ∈ t, x.1.forced = true ∨ cache.find? x.1.line = none)
    (hapart : t.Pairwise fun x y => Apart x.1 y.1) : Conversation exec st t st' := by
  induction t generalizing cache st with
  | nil =>
    cases h
    exact .nil _
  | cons x t ih =>
    obtain ⟨r, answer⟩ := x
    obtain ⟨hr, hnew'⟩ := List.forall_mem_cons.mp hnew
    obtain ⟨hfirst, hapart'⟩ := List.pairwise_cons.mp hapart
    obtain ⟨cache₁, hserving, hkept⟩ := serving_of_new (r := r) exec cache st hr
    cases h with
    | cons hx ht =>
      generalize hexec : exec r st = x at hserving
      obtain ⟨a, st₁⟩ := x
      cases hserving.symm.trans hx
      refine .cons hexec (ih ht (fun y hy => ?_) hapart')
      rcases hnew' y hy with hy' | hy'
      · exact Or.inl hy'
      · rcases hfirst y hy with h | h | h
        · exact Or.inr ((hkept _ (Or.inl h)).trans hy')
        · exact Or.inl h
        · exact Or.inr ((hkept _ (Or.inr h.symm)).trans hy')

/-- What is forced is passed on. -/
theorem Conversation.of_forced (h : Conversation (serving exec) (cache, st) t (cache', st'))
    (hforced : ∀ x ∈ t, x.1.forced = true) : Conversation exec st t st' :=
  h.passed_on (fun x hx => Or.inl (hforced x hx))
    (List.pairwise_of_forall_mem_list fun x hx _ _ => Or.inl (hforced x hx))

end Testbed.Node

import Testbed.Proofs.Node.Memory

/-!
# What a script may ask

A script may ask many things, depending on what it is answered. `Asks P` says that all it may ask
has a property; then so has all that it hands over to the world, whatever the node remembers and the
world answers.

* `Asks`: all that a script may ask has a property. `asks_bind` is the law that the rest follows
  from.
* `AsksOnly`: the same of a script that may fail.

Results:
* `runOn_bind`, `runOn_adapt`: a run in sequence, and one whose errors are reported as others.
* `mem_log_of_asksOnly`: what is handed over has the property.
* `Conversation.exists_passed`: all that is forced is handed over, and all that is learnt comes from
  what is handed over.
-/

namespace Testbed.Node

variable {α β ε δ σ F : Type} {P : Request → Prop}

/-- All that a script may ask has a property. -/
def Asks (P : Request → Prop) : Requests α → Prop
  | .done _ => True
  | .ask r resume => P r ∧ ∀ answer, Asks P (resume answer)

/-- All that a script that may fail may ask has a property. -/
def AsksOnly (P : Request → Prop) (x : NodeScript ε α) : Prop := Asks P x.run

/-- What runs whatever is remembered. -/
def Forced (r : Request) : Prop := r.forced = true

theorem Asks.imp {Q : Request → Prop} {s : Requests α} (h : Asks P s) (hpq : ∀ r, P r → Q r) :
    Asks Q s := by
  induction s with
  | done a => trivial
  | ask r resume ih => exact ⟨hpq r h.1, fun answer => ih answer (h.2 answer)⟩

/-! ## Scripts in sequence -/

theorem asks_bind {s : Requests α} {f : α → Requests β} (hs : Asks P s) (hf : ∀ a, Asks P (f a)) :
    Asks P (s >>= f) := by
  induction s with
  | done a => exact hf a
  | ask r resume ih => exact ⟨hs.1, fun answer => ih answer (hs.2 answer)⟩

theorem asksOnly_pure (a : α) : AsksOnly P (pure a : NodeScript ε α) := trivial

theorem asksOnly_mk (x : Except ε α) : AsksOnly P (ExceptT.mk (pure x) : NodeScript ε α) := trivial

theorem asksOnly_bind {x : NodeScript ε α} {f : α → NodeScript ε β} (hx : AsksOnly P x)
    (hf : ∀ a, AsksOnly P (f a)) : AsksOnly P (x >>= f) := by
  rw [AsksOnly, ExceptT.run_bind]
  refine asks_bind hx fun result => ?_
  cases result with
  | ok a => exact hf a
  | error e => trivial

theorem asksOnly_adapt {wrap : ε → δ} {x : NodeScript ε α} (hx : AsksOnly P x) :
    AsksOnly P (ExceptT.adapt wrap x) := by
  rw [AsksOnly, ExceptT.run_adapt, map_eq_pure_bind]
  exact asks_bind hx fun _ => trivial

theorem asksOnly_forM {op : β → NodeScript ε PUnit} {bs : List β}
    (h : ∀ b ∈ bs, AsksOnly P (op b)) : AsksOnly P (bs.forM op) := by
  induction bs with
  | nil => trivial
  | cons b bs ih =>
    obtain ⟨hb, hbs⟩ := List.forall_mem_cons.mp h
    exact asksOnly_bind hb fun _ => ih hbs

/-! ## Operations -/

theorem asksOnly_script {turn : Plan.Turn F ε} (h : P turn.request) : AsksOnly P turn.script :=
  ⟨h, fun _ => trivial⟩

theorem asksOnly_executeChecked {r : Request} (h : P r) : AsksOnly P (executeChecked r) := by
  rw [Plan.executeChecked_eq]
  exact asksOnly_script h

theorem asksOnly_perform {command : String} {elevated : Bool} (h : P (change command elevated)) :
    AsksOnly P (perform command elevated) :=
  asksOnly_bind (asksOnly_executeChecked h) fun _ => trivial

theorem asksOnly_isPresent {path : String} {elevated : Bool}
    (h : P (Plan.probeRequest path elevated)) : AsksOnly P (isPresent path elevated) := by
  rw [Plan.isPresent_eq]
  exact asksOnly_script h

theorem asksOnly_readText {path : String} {elevated forced : Bool}
    (h : P ⟨"cat " ++ Shell.quote path, elevated, forced, none, none⟩) :
    AsksOnly P (readText path elevated forced) :=
  asksOnly_bind (asksOnly_executeChecked h) fun _ => trivial

/-! ## Runs -/

variable (exec : Request → StateM σ Answer) (cache : Cache) (st : σ)

/-- A run goes on with the result of a part, in the state that this has left behind. -/
theorem runOn_bind (x : NodeScript ε α) (f : α → NodeScript ε β) :
    (x >>= f).runOn exec cache st =
      match x.runOn exec cache st with
      | ((.ok a, cache), st) => (f a).runOn exec cache st
      | ((.error e, cache), st) => ((.error e, cache), st) := by
  generalize hx : x.runOn exec cache st = result
  obtain ⟨⟨result, cache'⟩, st'⟩ := result
  have hbind := run_serve_bind (ExceptT.bindCont f) hx
  cases result <;> exact hbind

theorem runOn_adapt (wrap : ε → δ) (x : NodeScript ε α) :
    NodeScript.runOn (ExceptT.adapt wrap x) exec cache st =
      (((x.runOn exec cache st).1.1.mapError wrap, (x.runOn exec cache st).1.2),
        (x.runOn exec cache st).2) := by
  generalize hx : x.runOn exec cache st = result
  obtain ⟨⟨result, cache'⟩, st'⟩ := result
  rw [NodeScript.runOn, ExceptT.run_adapt, map_eq_pure_bind]
  exact run_serve_bind (fun result => pure (result.mapError wrap)) hx

variable {exec cache st} in
theorem runOn_bind_ok {x : NodeScript ε α} {f : α → NodeScript ε β} {a : α} {cache' : Cache} {st' : σ}
    (h : x.runOn exec cache st = ((.ok a, cache'), st')) :
    (x >>= f).runOn exec cache st = (f a).runOn exec cache' st' := by
  rw [runOn_bind, h]

variable {exec cache st} in
theorem runOn_adapt_ok {wrap : ε → δ} {x : NodeScript ε α} {a : α} {cache' : Cache} {st' : σ}
    (h : x.runOn exec cache st = ((.ok a, cache'), st')) :
    NodeScript.runOn (ExceptT.adapt wrap x) exec cache st = ((.ok a, cache'), st') := by
  rw [runOn_adapt, h]
  rfl

/-- **What is handed over has the property** that all has that a script may ask. -/
theorem mem_log_of_asks {s : Requests α} (h : Asks P s) {log : List Exchange}
    (hlog : ∀ x ∈ log, P x.1) :
    ∀ x ∈ (s.run (serve (watched exec)) cache (st, log)).2.2, P x.1 := by
  induction s generalizing cache st log with
  | done a => exact hlog
  | ask r resume ih =>
    have hrun : (Script.ask r resume).run (serve (watched exec)) cache (st, log) =
        (resume (serve (watched exec) r cache (st, log)).1.1).run (serve (watched exec))
          (serve (watched exec) r cache (st, log)).1.2
          (serve (watched exec) r cache (st, log)).2 := rfl
    rw [hrun]
    refine ih _ _ _ (h.2 _) ?_
    rw [serve_eq]
    cases cache.recalled? r with
    | some output => exact hlog
    | none =>
      intro x hx
      rcases List.mem_append.mp hx with hx | hx
      · exact hlog x hx
      · rw [List.mem_singleton.mp hx]
        exact h.1

theorem Plays.asks {s : Requests α} {t : List Exchange} {a : α} (h : Plays s t a) (hs : Asks P s) :
    ∀ x ∈ t, P x.1 := by
  induction h with
  | done a => simp
  | ask hplays ih => exact List.forall_mem_cons.mpr ⟨hs.1, ih (hs.2 _)⟩

/-- **What reaches the world** of what a node is asked: all that is forced and some of the rest, in the
same order. What the node has learnt, it has learnt from that. -/
theorem Conversation.exists_passed {exec : Request → StateM σ Answer} {cache cache' : Cache}
    {st st' : σ} {t : List Exchange} (h : Conversation (serving exec) (cache, st) t (cache', st')) :
    ∃ u, Conversation exec st u st' ∧ u.Sublist t ∧
      (t.filter fun x => x.1.forced).Sublist u ∧
      cache'.entries = cache.entries ++ u.filterMap settled := by
  induction t generalizing cache st with
  | nil =>
    cases h
    exact ⟨[], .nil _, .refl [], .refl [], by simp⟩
  | cons x t ih =>
    cases h with
    | @cons _ next _ r answer _ hx ht =>
      obtain ⟨cache₁, st₁⟩ := next
      obtain ⟨u, hu, hsub, hforced, hentries⟩ := ih ht
      rw [serving, serve_eq] at hx
      cases hrecall : cache.recalled? r with
      | some output =>
        rw [hrecall] at hx
        cases hx
        have hquiet : r.forced = false := (recalled?_eq_some_iff.mp hrecall).1
        refine ⟨u, hu, hsub.cons _, ?_, hentries⟩
        rw [List.filter_cons_of_neg (by simp [hquiet])]
        exact hforced
      | none =>
        rw [hrecall] at hx
        cases hx
        refine ⟨(r, (exec r st).1) :: u, .cons rfl hu, hsub.cons_cons _, ?_, ?_⟩
        · rw [List.filter_cons]
          split
          · exact hforced.cons_cons _
          · exact hforced.cons _
        · rw [hentries, entries_learn, List.append_assoc, List.filterMap_cons]
          cases settled (r, (exec r st).1) <;> rfl

theorem mem_log_of_asksOnly {x : NodeScript ε α} (h : AsksOnly P x) {log : List Exchange}
    (hlog : ∀ x ∈ log, P x.1) : ∀ y ∈ (x.runOn (watched exec) cache (st, log)).2.2, P y.1 :=
  mem_log_of_asks exec cache st h hlog

end Testbed.Node

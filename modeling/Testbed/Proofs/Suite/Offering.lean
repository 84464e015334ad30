import Testbed.Proofs.Node.Conversation
import Testbed.Proofs.Report.Offering
import Testbed.Suite.Run

/-!
# Whom a run of the suite tells what

* `Reported`: what the notifiers of a hub are told by a run of the suite, and how it ends: nothing, if
  the tests could not be run; all records; or all up to the first that a notifier refuses.

Headline: **`offers_in_order`**: a message goes to the notifiers in order, up to the first that fails;
so what one is offered was accepted by those before it, whatever is done with the hub; and a run of
the suite reports its records in this way.
-/

namespace Testbed.Suite

open Report (Hub Message Notifier NotifierError Round Step acceptedBy offeredTo)

variable {hub : Hub} {rounds : List Round} {records : List Record}

/-- What the notifiers of a hub are told by the rounds of a run of the suite, by what came of running
the tests and how the suite ends. -/
inductive Reported (hub : Hub) (rounds : List Round) :
    Except RunError (List Record) → Except SuiteError (List Record) → Prop
  | nothing (e : RunError) (none : rounds = []) : Reported hub rounds (.error e) (.error (.run e))
  | toAll (records : List Record)
      (told : ∀ (i : Nat) n, hub[i]? = some n → offeredTo i rounds = messages records ∧
        acceptedBy i rounds = messages records ∧ ∃ n', n.Accepts (messages records) n') :
      Reported hub rounds (.ok records) ((checkFailures records).map fun _ => records)
  | upTo (done : List Record) (record : Record) (later : List Record) (j : Nat) (e : NotifierError)
      (told : ∀ (i : Nat) n, hub[i]? = some n →
        offeredTo i rounds = messages (if i ≤ j then done ++ [record] else done) ∧
        acceptedBy i rounds = messages (if i < j then done ++ [record] else done) ∧
        ∃ n', n.Accepts (acceptedBy i rounds) n')
      (refuses : ∃ n n', hub[j]? = some n ∧ n.Accepts (messages done) n' ∧
        n'.offer (Message.ofRecord suiteName record) = .error e) :
      Reported hub rounds (.ok (done ++ record :: later)) (.error (.notifier e))

/-- How a run of the suite ends when the delivery of its records has ended. -/
def ending (records : List Record) : Except NotifierError Unit → Except SuiteError (List Record)
  | .error e => .error (.notifier e)
  | .ok () => (checkFailures records).map fun _ => records

theorem report_eq (hub : Hub) (records : List Record) :
    report hub records =
      ((hub.deliver (messages records)).1, ending records (hub.deliver (messages records)).2) := by
  rw [report]
  generalize hub.deliver (messages records) = delivered
  obtain ⟨_, _ | _⟩ := delivered <;> rfl

/-- Records are reported as their messages are delivered. -/
theorem reported_of_delivers {outcome : Except NotifierError Unit}
    (h : hub.Delivers (messages records) rounds outcome) :
    Reported hub rounds (.ok records) (ending records outcome) := by
  generalize hms : messages records = ms at h
  cases h with
  | toAll ms haccepts =>
    subst hms
    refine .toAll records fun i n hn => ?_
    obtain ⟨hi, -⟩ := List.getElem?_eq_some_iff.mp hn
    obtain ⟨hoffered, haccepted⟩ := Report.heard_toAll hi (messages records)
    exact ⟨hoffered, haccepted, haccepts i n hn⟩
  | upTo done m later j e haccepts hrefuses =>
    obtain ⟨done, tail, rfl, rfl, htail⟩ := List.map_eq_append_iff.mp hms
    obtain ⟨record, later, rfl, rfl, rfl⟩ := List.map_eq_cons_iff.mp htail
    have hsnoc : messages (done ++ [record]) =
        messages done ++ [Message.ofRecord suiteName record] := List.map_append
    refine .upTo done record later j e (fun i n hn => ?_) hrefuses
    obtain ⟨hi, -⟩ := List.getElem?_eq_some_iff.mp hn
    obtain ⟨hoffered, haccepted⟩ := Report.heard_upTo hi (messages done)
      (Message.ofRecord suiteName record) j e
    rw [← hsnoc, ← apply_ite messages] at hoffered haccepted
    obtain ⟨n', hn'⟩ := haccepts i n hn
    refine ⟨hoffered, haccepted, n', ?_⟩
    have hmade : n.Accepts (messages (if i < j then done ++ [record] else done)) n' := by
      rw [apply_ite messages, hsnoc]
      exact hn'
    exact haccepted ▸ hmade

/-- **Messages are offered in the order of the notifiers**, up to the first that fails.
A hub does with a message what its round tells. Whatever is done with a hub after its notifiers were
registered, and whatever fails, no notifier is lost nor what it was told, and what one of them is
offered, each notifier before it has accepted, in the same order and no more often. A run of the suite
offers the records, one after the other; a notifier that fails ends it with its failure, whatever the
records are, and if the tests could not be run, nothing is offered. -/
theorem offers_in_order :
    (∀ (hub : Hub) (m : Message), (hub.round m).message = m ∧
      (hub.round m).Tells hub (hub.notify m).1 (hub.notify m).2) ∧
    (∀ (ω : Type) (answer : (action : Host.Action) → StateM ω action.Reply) (w : ω) (hub : Hub)
      (steps : List Step), ∃ hub' rounds w',
      (hub.performAll steps).run answer w = ((hub', rounds), w') ∧ hub.Hears rounds hub' ∧
      ∀ i j, i < j → (offeredTo j rounds).Sublist (acceptedBy i rounds)) ∧
    ∀ (σ : Type) (exec : Request → StateM σ Answer) (st : σ) (cache : Cache) (runner : Runner)
      (selection : Selection) (hub : Hub), ∃ answer cache' st' hub' rounds outcome,
      (runner.runTests selection.tests selection.skipTests selection.drive).runOn exec cache st =
        ((answer, cache'), st') ∧
      (run runner selection hub).run (Node.serve exec) cache st = (((hub', outcome), cache'), st') ∧
      hub.performAll (rounds.map fun r => .notify r.message) = pure (hub', rounds) ∧
      hub.Hears rounds hub' ∧ Reported hub rounds answer outcome := by
  refine ⟨fun hub m => ⟨hub.message_round m, hub.tells_notify m⟩, ?_, ?_⟩
  · intro ω answer w hub steps
    generalize hrun : (hub.performAll steps).run answer w = result
    obtain ⟨⟨hub', rounds⟩, w'⟩ := result
    have hears := (hub.hears_performAll steps).run answer w
    rw [hrun] at hears
    exact ⟨hub', rounds, w', rfl, hears, fun i j hij => Report.offeredTo_sublist hij rounds⟩
  · intro σ exec st cache runner selection hub
    generalize htests : (runner.runTests _ _ _).runOn exec cache st = result
    obtain ⟨⟨answer, cache'⟩, st'⟩ := result
    refine ⟨answer, cache', st', ?_⟩
    rw [run, Node.run_serve_bind _ htests]
    cases answer with
    | error e => exact ⟨hub, [], _, rfl, rfl, rfl, hub.hears_refl, .nothing e rfl⟩
    | ok records =>
      obtain ⟨rounds, hdelivers, hperform⟩ := hub.delivers_deliver (messages records)
      have hears := hub.hears_performAll (rounds.map fun r => .notify r.message)
      rw [hperform] at hears
      refine ⟨(hub.deliver (messages records)).1, rounds, _, rfl, ?_, hperform, hears,
        reported_of_delivers hdelivers⟩
      rw [← report_eq]
      rfl

end Testbed.Suite

import Mathlib.Data.List.Forall2
import Testbed.Report.Notifier

/-!
# Delivering messages

* `Accepts n ms n'`: a notifier accepts messages one after the other.
* `Unfailing`: a notifier accepts whatever it is offered.

Results:
* `Accepts.kept_eq`: a notifier that keeps messages keeps those that it accepts, in order.
* `deliver_eq_of_accepts`: messages that all notifiers accept are offered to each of them, in order,
  and no others.
-/

namespace Testbed.Report

namespace Notifier

/-- A notifier that is offered messages, one after the other, accepts each. -/
inductive Accepts : Notifier → List Message → Notifier → Prop
  | nil (n : Notifier) : Accepts n [] n
  | cons {n n₁ n' : Notifier} {m : Message} {ms : List Message} (h : n.offer m = .ok n₁)
      (hs : Accepts n₁ ms n') : Accepts n (m :: ms) n'

/-- A notifier that accepts whatever it is offered. -/
def Unfailing (n : Notifier) : Prop := ∀ ms, ∃ n', Accepts n ms n'

variable {n n' : Notifier} {m : Message} {ms : List Message}

theorem kept_of_offer (h : n.offer m = .ok n') (hn : n ≠ .log) (hm : m.isCompleted = true) :
    n' ≠ .log ∧ n'.kept = n.kept ++ [m] := by
  cases n with
  | log => exact absurd rfl hn
  | collect kept =>
    cases h
    exact ⟨Notifier.noConfusion, rfl⟩
  | console kept =>
    cases h
    exact ⟨Notifier.noConfusion, by rw [Notifier.kept, ended, if_pos hm, Notifier.kept]⟩
  | text path kept =>
    cases h
    exact ⟨Notifier.noConfusion, by rw [Notifier.kept, ended, if_pos hm, Notifier.kept]⟩
  | recorder name temper kept =>
    rw [offer] at h
    cases hr : temper.refuse temper.offered m with
    | some e =>
      rw [hr] at h
      cases h
    | none =>
      rw [hr] at h
      cases h
      exact ⟨Notifier.noConfusion, rfl⟩

/-- **Nothing that is accepted is lost**: of messages about tests that came to an end, a notifier keeps
all that it accepts, in order, unless it keeps none at all. -/
theorem Accepts.kept_eq (h : Accepts n ms n') (hn : n ≠ .log) (hms : ∀ m ∈ ms, m.isCompleted = true) :
    n'.kept = n.kept ++ ms := by
  induction h with
  | nil n => rw [List.append_nil]
  | cons hm _ ih =>
    obtain ⟨hfirst, hrest⟩ := List.forall_mem_cons.mp hms
    obtain ⟨hn₁, hkept⟩ := kept_of_offer hm hn hfirst
    rw [ih hn₁ hrest, hkept, List.append_assoc, List.singleton_append]

/-- Nothing but a recorder ever refuses a message. -/
theorem unfailing_of_ne_recorder (h : ∀ name temper kept, n ≠ .recorder name temper kept) :
    n.Unfailing := by
  intro ms
  induction ms generalizing n with
  | nil => exact ⟨n, .nil n⟩
  | cons m ms ih =>
    suffices hoffer : ∃ n₁, n.offer m = .ok n₁ ∧ ∀ name temper kept, n₁ ≠ .recorder name temper kept by
      obtain ⟨n₁, hn₁, hne⟩ := hoffer
      obtain ⟨n', hn'⟩ := ih hne
      exact ⟨n', .cons hn₁ hn'⟩
    cases n with
    | log => exact ⟨_, rfl, h⟩
    | collect kept => exact ⟨_, rfl, fun _ _ _ => Notifier.noConfusion⟩
    | console kept => exact ⟨_, rfl, fun _ _ _ => Notifier.noConfusion⟩
    | text path kept => exact ⟨_, rfl, fun _ _ _ => Notifier.noConfusion⟩
    | recorder name temper kept => exact absurd rfl (h name temper kept)

end Notifier

namespace Hub

open Notifier (Accepts)

variable {hub hub₁ hub' : Hub} {m : Message} {ms : List Message}

theorem notify_eq_of_offer (h : List.Forall₂ (fun n n' => n.offer m = .ok n') hub hub') :
    hub.notify m = (hub', .ok ()) := by
  induction h with
  | nil => rfl
  | cons hn _ ih =>
    rw [notify, hn]
    simp only [ih]

/-- Notifiers that accept messages accept the first of them, and then the others. -/
theorem forall₂_accepts_cons (h : List.Forall₂ (fun n n' => Accepts n (m :: ms) n') hub hub') :
    ∃ hub₁ : Hub, List.Forall₂ (fun n n' => n.offer m = .ok n') hub hub₁ ∧
      List.Forall₂ (fun n n' => Accepts n ms n') hub₁ hub' := by
  induction h with
  | nil => exact ⟨[], .nil, .nil⟩
  | cons hn _ ih =>
    obtain ⟨hub₁, hoffer, haccepts⟩ := ih
    cases hn with
    | cons hm hms => exact ⟨_ :: hub₁, .cons hm hoffer, .cons hms haccepts⟩

/-- **Messages that all notifiers accept are delivered** to each of them, in order. -/
theorem deliver_eq_of_accepts (h : List.Forall₂ (fun n n' => Accepts n ms n') hub hub') :
    hub.deliver ms = (hub', .ok ()) := by
  induction ms generalizing hub with
  | nil =>
    have heq : List.Forall₂ Eq hub hub' := h.imp fun n n' hn => by
      cases hn
      rfl
    rw [List.forall₂_eq_eq_eq] at heq
    rw [heq]
    rfl
  | cons m ms ih =>
    obtain ⟨hub₁, hoffer, haccepts⟩ := forall₂_accepts_cons h
    rw [deliver, notify_eq_of_offer hoffer]
    exact ih haccepts

/-- Notifiers that never fail accept any messages. -/
theorem exists_accepts (h : ∀ n ∈ hub, n.Unfailing) (ms : List Message) :
    ∃ hub', List.Forall₂ (fun n n' => Accepts n ms n') hub hub' := by
  induction hub with
  | nil => exact ⟨[], .nil⟩
  | cons n hub ih =>
    obtain ⟨hn, hrest⟩ := List.forall_mem_cons.mp h
    obtain ⟨n', hn'⟩ := hn ms
    obtain ⟨hub', hhub'⟩ := ih hrest
    exact ⟨n' :: hub', .cons hn' hhub'⟩

end Hub

end Testbed.Report

import Testbed.Proofs.Report.Delivery

/-!
# Who is offered a message

A hub offers a message to its notifiers one after the other, up to the first that refuses it. What
became of a message that was offered is told by a round, and all that ever happened to a notifier by
the rounds since it was registered.

* `Round`: a message, how many notifiers accepted it, and the failure of the next one, if that
  refused it. `Hub.round` is what comes of offering a message to a hub.
* `offeredTo`, `acceptedBy`: the messages that the notifier at a place was offered, and accepted.
* `Step`, `Hub.performAll`: the use of a hub, on any machine, with its rounds.

Results:
* `tells_notify`: a round tells what the hub does with a message.
* `offeredTo_sublist`: what a notifier is offered, those before it have accepted, in the same order.
* `hears_performAll`: a notifier is what it was made by the messages it was offered, and has lost none
  that it accepted.
* `delivers_deliver`: messages are delivered to all notifiers, or to all up to the first failure.
-/

namespace Testbed

/-! ## What a script comes to -/

namespace Script

variable {Op : Type} {Reply : Op → Type} {α β ω : Type} {P : α → Prop} {Q : β → Prop}

/-- Whatever is answered, the script comes to a result with a property. -/
def Ends (P : α → Prop) : Script Op Reply α → Prop
  | done a => P a
  | ask _ resume => ∀ reply, (resume reply).Ends P

theorem ends_bind {s : Script Op Reply α} {f : α → Script Op Reply β} (hs : s.Ends P)
    (hf : ∀ a, P a → (f a).Ends Q) : (s >>= f).Ends Q := by
  induction s with
  | done a => exact hf a hs
  | ask op resume ih => exact fun reply => ih reply (hs reply)

theorem ends_true (s : Script Op Reply α) : s.Ends fun _ => True := by
  induction s with
  | done a => trivial
  | ask op resume ih => exact ih

theorem Ends.run {s : Script Op Reply α} (h : s.Ends P) (answer : (op : Op) → StateM ω (Reply op))
    (w : ω) : P (s.run answer w).1 := by
  induction s generalizing w with
  | done a => exact h
  | ask op resume ih => exact ih _ (h _) _

end Script

namespace Report

/-! ## One notifier -/

namespace Notifier

/-- A notifier after a message that it was offered. -/
def heard (n : Notifier) (m : Message) : Notifier :=
  match n.offer m with
  | .ok n' => n'
  | .error _ => n.refused m

/-- The messages that a notifier keeps of those that it accepts. -/
def keeps : Notifier → Message → Bool
  | .log, _ => false
  | .collect _, _ | .recorder .., _ => true
  | .console _, m | .text .., m => m.isCompleted

variable {n n' : Notifier} {m : Message} {e : NotifierError}

theorem heard_of_ok (h : n.offer m = .ok n') : n.heard m = n' := by
  rw [heard, h]

theorem heard_of_error (h : n.offer m = .error e) : n.heard m = n.refused m := by
  rw [heard, h]

theorem ended_eq (m : Message) : ended m = [m].filter (·.isCompleted) := by
  rw [ended, List.filter_singleton]
  cases m.isCompleted <;> rfl

/-- What is accepted is kept, if it is of the kind that the notifier keeps. -/
theorem kept_of_ok (h : n.offer m = .ok n') :
    n'.kept = n.kept ++ [m].filter n.keeps ∧ n'.keeps = n.keeps := by
  cases n with
  | log =>
    cases h
    exact ⟨rfl, rfl⟩
  | collect kept =>
    cases h
    exact ⟨rfl, rfl⟩
  | console kept =>
    cases h
    exact ⟨congrArg (kept ++ ·) (ended_eq m), rfl⟩
  | text path kept =>
    cases h
    exact ⟨congrArg (kept ++ ·) (ended_eq m), rfl⟩
  | recorder name temper kept =>
    rw [offer] at h
    split at h
    · cases h
    · cases h
      exact ⟨rfl, rfl⟩

theorem kept_refused (n : Notifier) (m : Message) :
    (n.refused m).kept = n.kept ∧ (n.refused m).keeps = n.keeps := by
  cases n <;> exact ⟨rfl, rfl⟩

theorem keeps_heard (n : Notifier) (m : Message) : (n.heard m).keeps = n.keeps := by
  cases h : n.offer m with
  | ok n' =>
    rw [heard_of_ok h]
    exact (kept_of_ok h).2
  | error e =>
    rw [heard_of_error h]
    exact (kept_refused n m).2

end Notifier

/-! ## Rounds -/

/-- What became of a message: how many notifiers accepted it, and the failure of the next one, if that
refused it. -/
structure Round where
  message : Message
  accepted : Nat
  failure : Option NotifierError

namespace Round

/-- The round of a message that all notifiers accepted. -/
def toAll (count : Nat) (m : Message) : Round := ⟨m, count, none⟩

/-- What the hub answers. -/
def outcome (r : Round) : Except NotifierError Unit :=
  match r.failure with
  | none => .ok ()
  | some e => .error e

/-- Whether the notifier at a place accepted the message. -/
def pleases (r : Round) (i : Nat) : Bool := i < r.accepted

/-- Whether the notifier at a place was offered the message. -/
def reaches (r : Round) (i : Nat) : Bool := r.pleases i || (i == r.accepted && r.failure.isSome)

variable {r : Round} {i j : Nat}

theorem reaches_of_pleases (h : r.pleases i = true) : r.reaches i = true := by
  rw [reaches, h, Bool.true_or]

/-- A message that reaches a notifier was accepted by those before it. -/
theorem pleases_of_reaches (hij : i < j) (h : r.reaches j = true) : r.pleases i = true := by
  simp only [reaches, pleases, Bool.or_eq_true, Bool.and_eq_true, decide_eq_true_eq,
    beq_iff_eq] at h ⊢
  omega

end Round

/-- The messages that the notifier at a place was offered. -/
def offeredTo (i : Nat) (rounds : List Round) : List Message :=
  (rounds.filter (·.reaches i)).map (·.message)

/-- The messages that the notifier at a place accepted. -/
def acceptedBy (i : Nat) (rounds : List Round) : List Message :=
  (rounds.filter (·.pleases i)).map (·.message)

/-- **What a notifier is offered, those before it have accepted**, in the same order and each message
no more often. -/
theorem offeredTo_sublist {i j : Nat} (hij : i < j) (rounds : List Round) :
    (offeredTo j rounds).Sublist (acceptedBy i rounds) := by
  refine List.Sublist.map _ (List.monotone_filter_right rounds ?_)
  exact fun r => Round.pleases_of_reaches hij

theorem offeredTo_append (i : Nat) (rounds more : List Round) :
    offeredTo i (rounds ++ more) = offeredTo i rounds ++ offeredTo i more := by
  simp only [offeredTo, List.filter_append, List.map_append]

theorem acceptedBy_append (i : Nat) (rounds more : List Round) :
    acceptedBy i (rounds ++ more) = acceptedBy i rounds ++ acceptedBy i more := by
  simp only [acceptedBy, List.filter_append, List.map_append]

theorem offeredTo_singleton (i : Nat) (r : Round) :
    offeredTo i [r] = if r.reaches i then [r.message] else [] := by
  rw [offeredTo, List.filter_singleton]
  cases r.reaches i <;> rfl

theorem acceptedBy_singleton (i : Nat) (r : Round) :
    acceptedBy i [r] = if r.pleases i then [r.message] else [] := by
  rw [acceptedBy, List.filter_singleton]
  cases r.pleases i <;> rfl

/-- Messages that all notifiers accepted. -/
theorem heard_toAll {i count : Nat} (hi : i < count) (ms : List Message) :
    offeredTo i (ms.map (Round.toAll count)) = ms ∧
      acceptedBy i (ms.map (Round.toAll count)) = ms := by
  have hpleases : ∀ r ∈ ms.map (Round.toAll count), r.pleases i = true := by
    intro r hr
    obtain ⟨m, -, rfl⟩ := List.mem_map.mp hr
    exact decide_eq_true hi
  have hreaches : ∀ r ∈ ms.map (Round.toAll count), r.reaches i = true := fun r hr =>
    Round.reaches_of_pleases (hpleases r hr)
  have hmessages : (ms.map (Round.toAll count)).map (·.message) = ms := by
    rw [List.map_map]
    exact List.map_id ms
  exact ⟨by rw [offeredTo, List.filter_eq_self.mpr hreaches, hmessages],
    by rw [acceptedBy, List.filter_eq_self.mpr hpleases, hmessages]⟩

/-- Messages that all notifiers accepted, and one that was refused. -/
theorem heard_upTo {i count : Nat} (hi : i < count) (ms : List Message) (m : Message) (j : Nat)
    (e : NotifierError) :
    offeredTo i (ms.map (Round.toAll count) ++ [⟨m, j, some e⟩]) =
        (if i ≤ j then ms ++ [m] else ms) ∧
      acceptedBy i (ms.map (Round.toAll count) ++ [⟨m, j, some e⟩]) =
        (if i < j then ms ++ [m] else ms) := by
  have hpleases : (⟨m, j, some e⟩ : Round).pleases i = decide (i < j) := rfl
  have hreaches : (⟨m, j, some e⟩ : Round).reaches i = decide (i ≤ j) := by
    rw [Bool.eq_iff_iff, Round.reaches, hpleases]
    simp only [Option.isSome_some, Bool.and_true, Bool.or_eq_true, decide_eq_true_eq, beq_iff_eq]
    omega
  obtain ⟨hoffered, haccepted⟩ := heard_toAll hi ms
  rw [offeredTo_append, acceptedBy_append, hoffered, haccepted, offeredTo_singleton,
    acceptedBy_singleton, hreaches, hpleases]
  constructor
  · split <;> simp_all
  · split <;> simp_all

/-! ## One message -/

/-- What comes of offering a message. -/
def Hub.round (m : Message) : Hub → Round
  | [] => ⟨m, 0, none⟩
  | n :: rest =>
    match n.offer m with
    | .error e => ⟨m, 0, some e⟩
    | .ok _ => ⟨m, (round m rest).accepted + 1, (round m rest).failure⟩

/-- **A round tells what a hub does with a message**: it is offered to the notifiers in order, up to
and including the first that fails, whose failure is the answer, and those behind that are left as
they were. -/
structure Round.Tells (r : Round) (hub hub' : Hub) (outcome : Except NotifierError Unit) : Prop where
  accepts : ∀ i n, hub[i]? = some n → i < r.accepted → ∃ n', n.offer r.message = .ok n'
  refuses : ∀ e, r.failure = some e →
    ∃ n, hub[r.accepted]? = some n ∧ n.offer r.message = .error e
  all : r.failure = none → r.accepted = hub.length
  hears : ∀ i : Nat,
    hub'[i]? = hub[i]?.map fun n => if r.reaches i then n.heard r.message else n
  outcome : outcome = r.outcome

namespace Round

variable {hub hub' : Hub} {n n' : Notifier} {m : Message} {e : NotifierError} {r : Round}

/-- The first notifier refuses the message, and the others are left alone. -/
theorem tells_refused (rest : Hub) (h : n.offer m = .error e) :
    Tells ⟨m, 0, some e⟩ (n :: rest) (n.refused m :: rest) (.error e) := by
  refine ⟨fun _ _ _ hi => absurd hi (Nat.not_lt_zero _), ?_, ?_, ?_, rfl⟩
  · rintro _ ⟨⟩
    exact ⟨n, rfl, h⟩
  · rintro ⟨⟩
  · intro i
    cases i with
    | zero => exact congrArg some (Notifier.heard_of_error h).symm
    | succ i =>
      have hreaches : reaches ⟨m, 0, some e⟩ (i + 1) = false := by simp [reaches, pleases]
      simp [hreaches]

/-- The first notifier accepts the message, and the others do with it what they do. -/
theorem Tells.cons {outcome : Except NotifierError Unit} (hr : r.Tells hub hub' outcome)
    (h : n.offer r.message = .ok n') :
    Tells ⟨r.message, r.accepted + 1, r.failure⟩ (n :: hub) (n' :: hub') outcome := by
  refine ⟨?_, hr.refuses, fun hall => congrArg (· + 1) (hr.all hall), ?_, hr.outcome⟩
  · intro i n₁ hi haccepted
    cases i with
    | zero =>
      cases hi
      exact ⟨n', h⟩
    | succ i => exact hr.accepts i n₁ hi (Nat.lt_of_succ_lt_succ haccepted)
  · intro i
    cases i with
    | zero =>
      have hreaches : reaches ⟨r.message, r.accepted + 1, r.failure⟩ 0 = true := by
        simp [reaches, pleases]
      simp [hreaches, Notifier.heard_of_ok h]
    | succ i =>
      have hreaches : reaches ⟨r.message, r.accepted + 1, r.failure⟩ (i + 1) = r.reaches i := by
        simp [reaches, pleases]
      simp [hreaches, hr.hears i]

/-- A notifier that was offered the message and did not accept it has refused it. -/
theorem Tells.exists_refused {outcome : Except NotifierError Unit} {i : Nat}
    (hr : r.Tells hub hub' outcome) (hn : hub[i]? = some n) (hreaches : r.reaches i = true)
    (hpleases : r.pleases i = false) : ∃ e, n.offer r.message = .error e := by
  rw [reaches, hpleases, Bool.false_or, Bool.and_eq_true, beq_iff_eq] at hreaches
  obtain ⟨rfl, hfailure⟩ := hreaches
  obtain ⟨e, he⟩ := Option.isSome_iff_exists.mp hfailure
  obtain ⟨n₁, hn₁, hoffer⟩ := hr.refuses e he
  obtain rfl := Option.some.inj (hn.symm.trans hn₁)
  exact ⟨e, hoffer⟩

/-- What a notifier keeps after a round. -/
theorem Tells.kept {outcome : Except NotifierError Unit} {i : Nat} (hr : r.Tells hub hub' outcome)
    (hn : hub[i]? = some n) : (if r.reaches i then n.heard r.message else n).kept =
      n.kept ++ (if r.pleases i then [r.message] else []).filter n.keeps := by
  cases hpleases : r.pleases i with
  | true =>
    obtain ⟨n₁, hn₁⟩ := hr.accepts i n hn (of_decide_eq_true hpleases)
    rw [if_pos (reaches_of_pleases hpleases), if_pos rfl, Notifier.heard_of_ok hn₁]
    exact (Notifier.kept_of_ok hn₁).1
  | false =>
    rw [if_neg Bool.false_ne_true, List.filter_nil, List.append_nil]
    split
    · obtain ⟨e, he⟩ := hr.exists_refused hn ‹_› hpleases
      rw [Notifier.heard_of_error he]
      exact (Notifier.kept_refused n r.message).1
    · rfl

end Round

namespace Hub

variable {hub hub' hub₁ : Hub} {m : Message} {ms : List Message} {rounds more : List Round}

theorem message_round (m : Message) (hub : Hub) : (hub.round m).message = m := by
  cases hub with
  | nil => rfl
  | cons n rest =>
    rw [round]
    split <;> rfl

theorem tells_notify (m : Message) (hub : Hub) :
    (hub.round m).Tells hub (hub.notify m).1 (hub.notify m).2 := by
  induction hub with
  | nil =>
    refine ⟨?_, ?_, fun _ => rfl, fun _ => rfl, rfl⟩
    · rintro _ _ ⟨⟩
    · rintro _ ⟨⟩
  | cons n rest ih =>
    cases h : n.offer m with
    | error e =>
      have hround : round m (n :: rest) = ⟨m, 0, some e⟩ := by rw [round, h]
      have hnotify : notify m (n :: rest) = (n.refused m :: rest, .error e) := by rw [notify, h]
      rw [hround, hnotify]
      exact Round.tells_refused rest h
    | ok n' =>
      have hmessage := message_round m rest
      have hround : round m (n :: rest) =
          ⟨(round m rest).message, (round m rest).accepted + 1, (round m rest).failure⟩ := by
        rw [round, h, hmessage]
      have hnotify : notify m (n :: rest) = (n' :: (notify m rest).1, (notify m rest).2) := by
        rw [notify, h]
      rw [hround, hnotify]
      exact ih.cons (hmessage.symm ▸ h)

theorem length_notify (m : Message) (hub : Hub) : (hub.notify m).1.length = hub.length := by
  refine Nat.le_antisymm ?_ ?_
  · have hnone := (tells_notify m hub).hears hub.length
    rw [List.getElem?_eq_none (Nat.le_refl _)] at hnone
    exact List.getElem?_eq_none_iff.mp hnone
  · have hnone := (tells_notify m hub).hears (hub.notify m).1.length
    rw [List.getElem?_eq_none (Nat.le_refl _)] at hnone
    exact List.getElem?_eq_none_iff.mp (Option.map_eq_none_iff.mp hnone.symm)

/-! ## What notifiers have heard -/

/-- Between two states of a hub each notifier stays at its place, is what it was made by the messages
it was offered, and has lost none of those that it accepted and keeps. -/
structure Hears (hub : Hub) (rounds : List Round) (hub' : Hub) : Prop where
  heard : ∀ (i : Nat) n, hub[i]? = some n →
    hub'[i]? = some ((offeredTo i rounds).foldl Notifier.heard n)
  kept : ∀ (i : Nat) n n', hub[i]? = some n → hub'[i]? = some n' →
    n'.kept = n.kept ++ (acceptedBy i rounds).filter n.keeps

theorem hears_refl (hub : Hub) : Hears hub [] hub where
  heard _ _ h := h
  kept i n n' h h' := by
    cases h.symm.trans h'
    exact (List.append_nil _).symm

theorem hears_register (hub : Hub) (n : Notifier) : Hears hub [] (hub.register n) where
  heard i n₁ h := by
    obtain ⟨hi, -⟩ := List.getElem?_eq_some_iff.mp h
    exact (List.getElem?_append_left hi).trans h
  kept i n₁ n' h h' := by
    obtain ⟨hi, -⟩ := List.getElem?_eq_some_iff.mp h
    cases ((List.getElem?_append_left hi).trans h).symm.trans h'
    exact (List.append_nil _).symm

theorem hears_notify (m : Message) (hub : Hub) : Hears hub [hub.round m] (hub.notify m).1 := by
  have htells := tells_notify m hub
  generalize hub.round m = r at htells
  constructor
  · intro i n hn
    rw [htells.hears i, hn, offeredTo_singleton]
    cases r.reaches i <;> rfl
  · intro i n n' hn hn'
    rw [htells.hears i, hn] at hn'
    obtain rfl := Option.some.inj hn'
    rw [acceptedBy_singleton]
    exact htells.kept hn

theorem keeps_foldl_heard (n : Notifier) (ms : List Message) :
    (ms.foldl Notifier.heard n).keeps = n.keeps := by
  induction ms generalizing n with
  | nil => rfl
  | cons m ms ih => exact (ih _).trans (Notifier.keeps_heard n m)

theorem Hears.trans (h : Hears hub rounds hub₁) (h' : Hears hub₁ more hub') :
    Hears hub (rounds ++ more) hub' where
  heard i n hn := by
    rw [h'.heard i _ (h.heard i n hn), offeredTo_append, List.foldl_append]
  kept i n n' hn hn' := by
    have hfirst := h.heard i n hn
    rw [h'.kept i _ n' hfirst hn', h.kept i n _ hn hfirst, keeps_foldl_heard, acceptedBy_append,
      List.filter_append, List.append_assoc]

end Hub

/-! ## The use of a hub -/

/-- Something that is done with a hub. -/
inductive Step where
  | register (notifier : Notifier)
  /-- Registers the notifier that writes the summary to a file, if the file is not there yet. -/
  | registerText (path : String)
  | notify (m : Message)
  | finalize

namespace Hub

variable {hub hub' : Hub} {ms : List Message}

/-- Takes a step; a failure leaves the notifiers registered. -/
def perform (hub : Hub) : Step → HostScript (Hub × Except NotifierError Unit)
  | .register notifier => pure (hub.register notifier, .ok ())
  | .registerText path => do
    match ← Notifier.text? path with
    | .error e => pure (hub, .error e)
    | .ok notifier => pure (hub.register notifier, .ok ())
  | .notify m => pure (hub.notify m)
  | .finalize => do
    let outcome ← hub.finalize
    pure (hub, outcome)

/-- The round of a step in which a message is offered. -/
def roundsOf (hub : Hub) : Step → List Round
  | .notify m => [hub.round m]
  | _ => []

/-- Takes steps one after the other, whether they fail or not. The result is the hub, and all
rounds. -/
def performAll (hub : Hub) : List Step → HostScript (Hub × List Round)
  | [] => pure (hub, [])
  | step :: steps => do
    let (next, _) ← hub.perform step
    let (last, rounds) ← next.performAll steps
    pure (last, hub.roundsOf step ++ rounds)

theorem hears_perform (hub : Hub) (step : Step) :
    (hub.perform step).Ends fun (hub', _) => Hears hub (hub.roundsOf step) hub' := by
  cases step with
  | register notifier => exact hears_register hub notifier
  | registerText path =>
    refine Script.ends_bind (Script.ends_true _) fun result _ => ?_
    cases result with
    | error e => exact hears_refl hub
    | ok notifier => exact hears_register hub notifier
  | notify m => exact hears_notify m hub
  | finalize => exact Script.ends_bind (Script.ends_true _) fun outcome _ => hears_refl hub

/-- **All that happens to a notifier is told by the rounds**, whatever is done with the hub and
whatever fails. -/
theorem hears_performAll (hub : Hub) (steps : List Step) :
    (hub.performAll steps).Ends fun (hub', rounds) => Hears hub rounds hub' := by
  induction steps generalizing hub with
  | nil => exact hears_refl hub
  | cons step steps ih =>
    refine Script.ends_bind (hears_perform hub step) fun (next, _) hnext => ?_
    exact Script.ends_bind (ih next) fun (last, rounds) hlast => hnext.trans hlast

/-! ## Delivering messages -/

open Notifier (Accepts)

/-- The rounds of messages that are delivered. Either all notifiers accept all messages, or all accept
those that come before the first failure; then the notifiers before the one that fails have accepted
one more, which it refuses. -/
inductive Delivers (hub : Hub) : List Message → List Round → Except NotifierError Unit → Prop
  | toAll (ms : List Message) (accepts : ∀ (i : Nat) n, hub[i]? = some n → ∃ n', Accepts n ms n') :
      Delivers hub ms (ms.map (Round.toAll hub.length)) (.ok ())
  | upTo (done : List Message) (m : Message) (later : List Message) (j : Nat) (e : NotifierError)
      (accepts : ∀ (i : Nat) n, hub[i]? = some n →
        ∃ n', Accepts n (if i < j then done ++ [m] else done) n')
      (refuses : ∃ n n', hub[j]? = some n ∧ Accepts n done n' ∧ n'.offer m = .error e) :
      Delivers hub (done ++ m :: later) (done.map (Round.toAll hub.length) ++ [⟨m, j, some e⟩])
        (.error e)

theorem round_of_failure {e : NotifierError} (h : (hub.round m).failure = some e) :
    hub.round m = ⟨m, (hub.round m).accepted, some e⟩ := by
  have hmessage := message_round m hub
  generalize hub.round m = r at h hmessage
  obtain ⟨_, _, _⟩ := r
  cases h
  cases hmessage
  rfl

theorem round_of_failure_eq_none (h : (hub.round m).failure = none) :
    hub.round m = Round.toAll hub.length m := by
  have hall := (tells_notify m hub).all h
  have hmessage := message_round m hub
  generalize hub.round m = r at h hall hmessage
  obtain ⟨_, _, _⟩ := r
  cases h
  cases hall
  cases hmessage
  rfl

/-- A notifier before the one that fails accepts the message. -/
theorem exists_offer_of_lt {i : Nat} {n : Notifier} (hn : hub[i]? = some n)
    (hi : i < (hub.round m).accepted) : ∃ n₁, n.offer m = .ok n₁ := by
  have haccepts := (tells_notify m hub).accepts i n hn hi
  rwa [message_round] at haccepts

/-- Where no notifier fails, each accepts the message and stays at its place. -/
theorem exists_offer_of_failure_eq_none {i : Nat} {n : Notifier} (hn : hub[i]? = some n)
    (h : (hub.round m).failure = none) :
    ∃ n₁, n.offer m = .ok n₁ ∧ (hub.notify m).1[i]? = some n₁ := by
  have htells := tells_notify m hub
  obtain ⟨hi, -⟩ := List.getElem?_eq_some_iff.mp hn
  have haccepted : i < (hub.round m).accepted := htells.all h ▸ hi
  obtain ⟨n₁, hn₁⟩ := exists_offer_of_lt hn haccepted
  have hreaches : (hub.round m).reaches i = true :=
    Round.reaches_of_pleases (decide_eq_true haccepted)
  refine ⟨n₁, hn₁, ?_⟩
  rw [htells.hears i, hn, hreaches, message_round, ← Notifier.heard_of_ok hn₁]
  rfl

/-- Offering a message that no notifier refuses comes before delivering the others. -/
theorem Delivers.cons {outcome : Except NotifierError Unit} {rounds : List Round}
    (h : (hub.round m).failure = none) (hs : Delivers (hub.notify m).1 ms rounds outcome) :
    Delivers hub (m :: ms) (hub.round m :: rounds) outcome := by
  have hlength := length_notify m hub
  rw [round_of_failure_eq_none h, ← hlength]
  cases hs with
  | toAll ms haccepts =>
    rw [hlength]
    refine .toAll (m :: ms) fun i n hn => ?_
    obtain ⟨n₁, hn₁, hnext⟩ := exists_offer_of_failure_eq_none hn h
    obtain ⟨n', hn'⟩ := haccepts i n₁ hnext
    exact ⟨n', .cons hn₁ hn'⟩
  | upTo done m' later j e haccepts hrefuses =>
    rw [hlength]
    refine .upTo (m :: done) m' later j e (fun i n hn => ?_) ?_
    · obtain ⟨n₁, hn₁, hnext⟩ := exists_offer_of_failure_eq_none hn h
      obtain ⟨n', hn'⟩ := haccepts i n₁ hnext
      refine ⟨n', ?_⟩
      by_cases hij : i < j
      · rw [if_pos hij] at hn' ⊢
        exact .cons hn₁ hn'
      · rw [if_neg hij] at hn' ⊢
        exact .cons hn₁ hn'
    · obtain ⟨n₁, n', hnext, hn', he⟩ := hrefuses
      obtain ⟨hj, -⟩ := List.getElem?_eq_some_iff.mp hnext
      have hn := List.getElem?_eq_getElem (hlength ▸ hj)
      obtain ⟨n₂, hn₂, hnext'⟩ := exists_offer_of_failure_eq_none hn h
      obtain rfl := Option.some.inj (hnext.symm.trans hnext')
      exact ⟨_, n', hn, .cons hn₂ hn', he⟩

theorem performAll_notify (hub : Hub) (m : Message) (steps : List Step) :
    hub.performAll (.notify m :: steps) =
      (hub.notify m).1.performAll steps >>= fun (last, rounds) =>
        pure (last, hub.round m :: rounds) := rfl

/-- **Messages are delivered** to all notifiers, or up to the first failure; the hub is left as by
offering just these messages. -/
theorem delivers_deliver (ms : List Message) (hub : Hub) :
    ∃ rounds, Delivers hub ms rounds (hub.deliver ms).2 ∧
      hub.performAll (rounds.map fun r => .notify r.message) = pure ((hub.deliver ms).1, rounds) := by
  induction ms generalizing hub with
  | nil => exact ⟨[], .toAll [] fun i n hn => ⟨n, .nil n⟩, rfl⟩
  | cons m ms ih =>
    have htells := tells_notify m hub
    have hmessage := message_round m hub
    have houtcome := htells.outcome
    -- A failure ends the delivery with this round; otherwise the rest goes to the hub as it is now.
    cases hfailure : (hub.round m).failure with
    | some e =>
      rw [Round.outcome, hfailure] at houtcome
      have hdeliver : hub.deliver (m :: ms) = ((hub.notify m).1, .error e) := by
        rw [deliver]
        generalize hub.notify m = result at houtcome
        obtain ⟨next, _⟩ := result
        cases houtcome
        rfl
      refine ⟨[hub.round m], ?_, ?_⟩
      · rw [hdeliver, round_of_failure hfailure]
        refine .upTo [] m ms _ e (fun i n hn => ?_) ?_
        · split
          · obtain ⟨n₁, hn₁⟩ := exists_offer_of_lt hn ‹_›
            exact ⟨n₁, .cons hn₁ (.nil n₁)⟩
          · exact ⟨n, .nil n⟩
        · obtain ⟨n, hn, he⟩ := htells.refuses e hfailure
          rw [hmessage] at he
          exact ⟨n, n, hn, .nil n, he⟩
      · rw [hdeliver, List.map_singleton, hmessage, performAll_notify]
        rfl
    | none =>
      rw [Round.outcome, hfailure] at houtcome
      have hdeliver : hub.deliver (m :: ms) = (hub.notify m).1.deliver ms := by
        rw [deliver]
        generalize hub.notify m = result at houtcome
        obtain ⟨next, _⟩ := result
        cases houtcome
        rfl
      obtain ⟨rounds, hdelivers, hperform⟩ := ih (hub.notify m).1
      refine ⟨hub.round m :: rounds, ?_, ?_⟩
      · rw [hdeliver]
        exact hdelivers.cons hfailure
      · rw [hdeliver, List.map_cons, hmessage, performAll_notify, hperform]
        rfl

end Hub

end Report

end Testbed

import Testbed.Node.Files
import Testbed.Proofs.Node.Conversation

/-!
# Plans

A plan lists what is to be asked of a node, in order. What an item of the list asks, and whether it
asks anything, depends on what is known from the answers so far (`F`); its turn also says what an
answer adds to that, or that it is a failure, which ends the plan.

* `checked`, `probed`: which exit codes of a command are failures.
* `Follows plan facts t outcome`: the exchanges `t` go through the plan, up to its end or to the first
  failure.
* `must`, `note`, `probe`, `tolerate`: the turns of the operations on a node.
* `Item.Smooth`: an item from which nothing is learnt if all ends well.

Results:
* `Follows.unique`: the answers alone decide which requests follow a plan, and the outcome.
* `follows_append_ok_iff`: a plan is followed to its end part by part.
* `Follows.of_smooth`: smooth items whose commands all end well are passed.
-/

namespace Testbed

open Node (Conversation Exchange)

namespace Plan

/-- The result of a command that has to end well. -/
def checked (r : Request) (answer : Answer) : Except NodeError Output :=
  answer.bind fun output =>
    if output.exitCode = 0 then .ok output
    else .error (.commandFailed r.command output.exitCode (Text.trimmed output.stderr))

/-- What a probe of a path tells: two exit codes are answers. -/
def probed (path : String) (answer : Answer) : Except NodeError Bool :=
  answer.bind fun output =>
    if output.exitCode = 0 then .ok true
    else if output.exitCode = 1 then .ok false
    else .error
      (.commandFailed ("test -e " ++ path) output.exitCode (Text.trimmed output.stderr))

theorem probed_eq_true_iff {path : String} {answer : Answer} :
    probed path answer = .ok true ↔ ∃ output, answer = .ok output ∧ output.exitCode = 0 := by
  cases answer with
  | error e =>
    constructor
    · rintro ⟨⟩
    · rintro ⟨output, ⟨⟩, -⟩
  | ok output =>
    show (if _ then _ else if _ then _ else _) = _ ↔ _
    by_cases h0 : output.exitCode = 0
    · rw [if_pos h0]
      exact ⟨fun _ => ⟨output, rfl, h0⟩, fun _ => rfl⟩
    · rw [if_neg h0]
      constructor
      · split
        · rintro ⟨⟩
        · rintro ⟨⟩
      · rintro ⟨_, ⟨⟩, h⟩
        exact absurd h h0

/-- A request, and what is known after its answer unless that is a failure. -/
structure Turn (F ε : Type) where
  request : Request
  judge : Answer → Except ε F

/-- An item of a plan: its turn, if there is one, given what is known. -/
abbrev Item (F ε : Type) := F → Option (Turn F ε)

namespace Item

variable {F ε β : Type}

/-- An item that always has a turn. -/
def always (turn : F → Turn F ε) : Item F ε := fun facts => some (turn facts)

/-- An item that is passed over unless something holds. -/
def onlyIf (condition : F → Bool) (item : Item F ε) : Item F ε := fun facts =>
  if condition facts then item facts else none

/-- An item that depends on something that has to be known. -/
def about (known : F → Option β) (item : β → Item F ε) : Item F ε := fun facts =>
  (known facts).bind fun b => item b facts

/-- What an item may ask, depending on what is known. -/
def MayAsk (item : Item F ε) (r : Request) : Prop :=
  ∃ facts turn, item facts = some turn ∧ turn.request = r

variable {facts : F} {condition : F → Bool} {item : Item F ε} {r : Request}

theorem onlyIf_of_true (h : condition facts = true) :
    onlyIf condition item facts = item facts := if_pos h

theorem onlyIf_of_false (h : condition facts = false) : onlyIf condition item facts = none :=
  if_neg (by rw [h]; exact Bool.false_ne_true)

theorem about_of_some {known : F → Option β} {item : β → Item F ε} {b : β}
    (h : known facts = some b) : about known item facts = item b facts := by
  rw [about, h, Option.bind_some]

theorem about_of_none {known : F → Option β} {item : β → Item F ε} (h : known facts = none) :
    about known item facts = none := by
  rw [about, h, Option.bind_none]

/-- An item that asks nothing without force. -/
def Forced (item : Item F ε) : Prop := ∀ r, item.MayAsk r → r.forced = true

theorem mayAsk_always {turn : F → Turn F ε} (h : (always turn).MayAsk r) :
    ∃ facts, (turn facts).request = r := by
  obtain ⟨facts, _, ⟨⟩, hr⟩ := h
  exact ⟨facts, hr⟩

theorem mayAsk_about {known : F → Option β} {item : β → Item F ε}
    (h : (about known item).MayAsk r) : ∃ b, (item b).MayAsk r := by
  obtain ⟨facts, turn, hturn, hr⟩ := h
  obtain ⟨b, -, hturn⟩ := Option.bind_eq_some_iff.mp hturn
  exact ⟨b, facts, turn, hturn, hr⟩

theorem forced_always {turn : F → Turn F ε} (h : ∀ facts, (turn facts).request.forced = true) :
    (always turn).Forced := fun r hr => by
  obtain ⟨facts, rfl⟩ := mayAsk_always hr
  exact h facts

theorem forced_onlyIf (h : item.Forced) : (onlyIf condition item).Forced := by
  rintro r ⟨facts, turn, hturn, hr⟩
  obtain ⟨-, hturn⟩ := Option.ite_none_right_eq_some.mp hturn
  exact h r ⟨facts, turn, hturn, hr⟩

theorem forced_about {known : F → Option β} {item : β → Item F ε} (h : ∀ b, (item b).Forced) :
    (about known item).Forced := fun r hr => by
  obtain ⟨b, hb⟩ := mayAsk_about hr
  exact h b r hb

end Item

/-- **Following a plan**: items without a turn are passed over, the others put their requests; the
first failure is the outcome, and nothing is asked after it. -/
inductive Follows {F ε : Type} : List (Item F ε) → F → List Exchange → Except ε F → Prop
  | finish (facts : F) : Follows [] facts [] (.ok facts)
  | pass {item : Item F ε} {plan : List (Item F ε)} {facts : F} {t : List Exchange}
      {outcome : Except ε F} (h : item facts = none) (ht : Follows plan facts t outcome) :
      Follows (item :: plan) facts t outcome
  | fail {item : Item F ε} {plan : List (Item F ε)} {facts : F} {turn : Turn F ε}
      {answer : Answer} {e : ε} (h : item facts = some turn) (ha : turn.judge answer = .error e) :
      Follows (item :: plan) facts [(turn.request, answer)] (.error e)
  | next {item : Item F ε} {plan : List (Item F ε)} {facts facts' : F} {turn : Turn F ε}
      {answer : Answer} {t : List Exchange} {outcome : Except ε F} (h : item facts = some turn)
      (ha : turn.judge answer = .ok facts') (ht : Follows plan facts' t outcome) :
      Follows (item :: plan) facts ((turn.request, answer) :: t) outcome

variable {F G α ε δ : Type} {item : Item F ε} {plan rest : List (Item F ε)} {facts facts' : F}
  {t t' : List Exchange} {outcome outcome' : Except ε F} {turn : Turn F ε} {r : Request}

theorem follows_cons_none (h : item facts = none) :
    Follows (item :: plan) facts t outcome ↔ Follows plan facts t outcome := by
  constructor
  · rintro (_ | ⟨-, ht⟩ | ⟨h', -⟩ | ⟨h', -, -⟩)
    · exact ht
    · exact absurd (h.symm.trans h') (Option.some_ne_none _).symm
    · exact absurd (h.symm.trans h') (Option.some_ne_none _).symm
  · exact .pass h

theorem follows_cons_some (h : item facts = some turn) :
    Follows (item :: plan) facts t outcome ↔ ∃ answer u, t = (turn.request, answer) :: u ∧
      ((∃ e, turn.judge answer = .error e ∧ u = [] ∧ outcome = .error e) ∨
        ∃ facts', turn.judge answer = .ok facts' ∧ Follows plan facts' u outcome) := by
  constructor
  · rintro (_ | ⟨h', -⟩ | ⟨h', ha⟩ | ⟨h', ha, ht⟩)
    · exact absurd (h'.symm.trans h) (Option.some_ne_none _).symm
    · obtain rfl := Option.some.inj (h.symm.trans h')
      exact ⟨_, _, rfl, Or.inl ⟨_, ha, rfl, rfl⟩⟩
    · obtain rfl := Option.some.inj (h.symm.trans h')
      exact ⟨_, _, rfl, Or.inr ⟨_, ha, ht⟩⟩
  · rintro ⟨answer, u, rfl, ⟨e, ha, rfl, rfl⟩ | ⟨facts', ha, ht⟩⟩
    · exact .fail h ha
    · exact .next h ha ht

/-- **A plan leaves no choice**: what follows it is decided by the answers. -/
theorem Follows.unique (h : Follows plan facts t outcome) (h' : Follows plan facts t' outcome')
    (hanswers : t.map (·.2) <+: t'.map (·.2)) : t = t' ∧ outcome = outcome' := by
  induction plan generalizing facts t t' with
  | nil =>
    cases h
    cases h'
    exact ⟨rfl, rfl⟩
  | cons item plan ih =>
    cases hitem : item facts with
    | none =>
      rw [follows_cons_none hitem] at h h'
      exact ih h h' hanswers
    | some turn =>
      rw [follows_cons_some hitem] at h h'
      obtain ⟨answer, u, rfl, hu⟩ := h
      obtain ⟨answer', u', rfl, hu'⟩ := h'
      obtain ⟨rfl, hrest⟩ : answer = answer' ∧ _ := List.cons_prefix_cons.mp hanswers
      rcases hu with ⟨e, ha, rfl, rfl⟩ | ⟨facts₁, ha, hf⟩
      · rcases hu' with ⟨e', ha', rfl, rfl⟩ | ⟨facts₂, ha', -⟩
        · exact ⟨rfl, congrArg _ (Except.error.inj (ha.symm.trans ha'))⟩
        · cases ha.symm.trans ha'
      · rcases hu' with ⟨e', ha', -⟩ | ⟨facts₂, ha', hf'⟩
        · cases ha.symm.trans ha'
        · obtain rfl := Except.ok.inj (ha.symm.trans ha')
          obtain ⟨rfl, rfl⟩ := ih hf hf' hrest
          exact ⟨rfl, rfl⟩

/-- A plan is followed to its end part by part. -/
theorem follows_append_ok_iff : Follows (plan ++ rest) facts t (.ok facts') ↔
    ∃ u v known, t = u ++ v ∧ Follows plan facts u (.ok known) ∧ Follows rest known v (.ok facts') := by
  induction plan generalizing facts t with
  | nil =>
    constructor
    · exact fun h => ⟨[], t, facts, rfl, .finish facts, h⟩
    · rintro ⟨_, v, _, rfl, ⟨⟩, h⟩
      exact h
  | cons item plan ih =>
    rw [List.cons_append]
    cases hitem : item facts with
    | none =>
      rw [follows_cons_none hitem, ih]
      simp only [follows_cons_none hitem]
    | some turn =>
      rw [follows_cons_some hitem]
      constructor
      · rintro ⟨answer, w, rfl, ⟨e, -, -, h⟩ | ⟨facts₁, ha, hw⟩⟩
        · cases h
        · obtain ⟨u, v, known, rfl, hu, hv⟩ := ih.mp hw
          exact ⟨_, v, known, rfl, .next hitem ha hu, hv⟩
      · rintro ⟨u, v, known, rfl, hu, hv⟩
        obtain ⟨answer, u, rfl, ⟨e, -, -, h⟩ | ⟨facts₁, ha, hu⟩⟩ := (follows_cons_some hitem).mp hu
        · cases h
        · exact ⟨answer, u ++ v, rfl, Or.inr ⟨facts₁, ha, ih.mpr ⟨u, v, known, rfl, hu, hv⟩⟩⟩

/-- What follows a plan is asked by its items. -/
theorem Follows.mayAsk (h : Follows plan facts t outcome) :
    ∀ x ∈ t, ∃ item ∈ plan, item.MayAsk x.1 := by
  induction h with
  | finish facts => exact fun x hx => absurd hx List.not_mem_nil
  | pass _ _ ih =>
    intro x hx
    obtain ⟨item, hitem, hask⟩ := ih x hx
    exact ⟨item, List.mem_cons_of_mem _ hitem, hask⟩
  | fail h ha =>
    intro x hx
    obtain rfl := List.mem_singleton.mp hx
    exact ⟨_, List.mem_cons_self, _, _, h, rfl⟩
  | next h ha ht ih =>
    intro x hx
    rcases List.mem_cons.mp hx with rfl | hx
    · exact ⟨_, List.mem_cons_self, _, _, h, rfl⟩
    · obtain ⟨item, hitem, hask⟩ := ih x hx
      exact ⟨item, List.mem_cons_of_mem _ hitem, hask⟩

/-- What holds between the requests of any two items holds between the requests that follow the
plan. -/
theorem Follows.pairwise {R : Request → Request → Prop} (h : Follows plan facts t outcome)
    (hplan : plan.Pairwise fun i j => ∀ r r', i.MayAsk r → j.MayAsk r' → R r r') :
    t.Pairwise fun x y => R x.1 y.1 := by
  induction h with
  | finish facts => exact .nil
  | pass _ _ ih => exact ih hplan.of_cons
  | fail h ha => exact List.pairwise_singleton _ _
  | next h ha ht ih =>
    obtain ⟨hfirst, hrest⟩ := List.pairwise_cons.mp hplan
    refine List.pairwise_cons.mpr ⟨fun y hy => ?_, ih hrest⟩
    obtain ⟨item, hitem, hask⟩ := ht.mayAsk y hy
    exact hfirst item hitem _ _ ⟨_, _, h, rfl⟩ hask

/-! ## Operations as turns -/

/-- The turn of an operation on a node, which is one request: `judge` makes its result of the answer,
and `more` what is known then. -/
def Turn.of (wrap : NodeError → ε) (r : Request) (judge : Answer → Except NodeError α)
    (more : α → Except ε F) : Turn F ε :=
  ⟨r, fun answer => ((judge answer).mapError wrap).bind more⟩

/-- A command that has to end well. -/
def must (wrap : NodeError → ε) (r : Request) (facts : F) : Turn F ε :=
  .of wrap r (checked r) fun _ => .ok facts

/-- A command that has to end well, and whose output is read. -/
def note (wrap : NodeError → ε) (r : Request) (read : String → Except ε F) : Turn F ε :=
  .of wrap r (checked r) fun output => read output.stdout

/-- The request that probes a path. -/
def probeRequest (path : String) (elevated : Bool) : Request where
  command := "test -e " ++ Shell.quote path
  elevated := elevated
  forced := true

/-- A probe of a path. -/
def probe (wrap : NodeError → ε) (path : String) (elevated : Bool) (tell : Bool → Except ε F) :
    Turn F ε :=
  .of wrap (probeRequest path elevated) (probed path) tell

/-- A command whose exit code is not looked at. -/
def tolerate (wrap : NodeError → ε) (r : Request) (facts : F) : Turn F ε :=
  .of wrap r (fun answer => answer) fun _ => .ok facts

variable {wrap : NodeError → ε} {judge : Answer → Except NodeError α} {more : α → Except ε F}

/-- An operation is no failure just if its result is none, and what is made of it is none. -/
theorem judge_of_eq_ok_iff {answer : Answer} : (Turn.of wrap r judge more).judge answer = .ok facts ↔
    ∃ a, judge answer = .ok a ∧ more a = .ok facts := by
  show ((judge answer).mapError wrap).bind more = _ ↔ _
  cases judge answer with
  | error e =>
    constructor
    · rintro ⟨⟩
    · rintro ⟨_, ⟨⟩, -⟩
  | ok a =>
    constructor
    · exact fun h => ⟨a, rfl, h⟩
    · rintro ⟨_, ⟨⟩, h⟩
      exact h

/-! ## Items in which nothing is learnt -/

/-- What the items of a plan ask as long as nothing is learnt. -/
def asked (plan : List (Item F ε)) (facts : F) : List Request :=
  plan.filterMap fun item => (item facts).map (·.request)

/-- An item that asks nothing without force, and from which nothing is learnt if what it asks ends
well. -/
def Item.Smooth (item : Item F ε) (facts : F) : Prop := ∀ turn, item facts = some turn →
  turn.request.forced = true ∧
    ∀ output : Output, output.exitCode = 0 → turn.judge (.ok output) = .ok facts

theorem forced_of_mem_asked (hplan : ∀ item ∈ plan, item.Smooth facts) :
    ∀ r ∈ asked plan facts, r.forced = true := by
  intro r hr
  obtain ⟨item, hitem, hr⟩ := List.mem_filterMap.mp hr
  obtain ⟨turn, hturn, rfl⟩ := Option.map_eq_some_iff.mp hr
  exact (hplan item hitem turn hturn).1

/-- **A plan that goes through**: smooth items, whose commands all end well, are passed and leave what
is known as it is. -/
theorem Follows.of_smooth {σ : Type} {ask : Request → StateM σ Answer} {st st' : σ}
    (hplan : ∀ item ∈ plan, item.Smooth facts)
    (hask : ∀ u r st₁, Conversation ask st u st₁ → u.map (·.1) ++ [r] <+: asked plan facts →
      ∃ output, (ask r st₁).1 = .ok output ∧ output.exitCode = 0)
    (hf : Follows (plan ++ rest) facts t outcome) (hc : Conversation ask st t st') :
    ∃ u v st₁, Conversation ask st u st₁ ∧ u.map (·.1) = asked plan facts ∧
      Conversation ask st₁ v st' ∧ Follows rest facts v outcome := by
  induction plan generalizing st t with
  | nil => exact ⟨[], t, st, .nil st, rfl, hc, hf⟩
  | cons item plan ih =>
    obtain ⟨hitem, hplan'⟩ := List.forall_mem_cons.mp hplan
    rw [List.cons_append] at hf
    cases h : item facts with
    | none =>
      have hasked : asked (item :: plan) facts = asked plan facts := by
        rw [asked, List.filterMap_cons_none (by rw [h]; rfl), asked]
      rw [hasked] at hask ⊢
      exact ih hplan' hask ((follows_cons_none h).mp hf) hc
    | some turn =>
      have hasked : asked (item :: plan) facts = turn.request :: asked plan facts := by
        rw [asked, List.filterMap_cons_some (by rw [h]; rfl), asked]
      rw [hasked] at hask ⊢
      obtain ⟨answer, w, rfl, hw⟩ := (follows_cons_some h).mp hf
      cases hc with
      | cons hx hc =>
        rename_i st₁
        obtain ⟨output, houtput, hexit⟩ := hask [] turn.request st (.nil st)
          (List.cons_prefix_cons.mpr ⟨rfl, List.nil_prefix⟩)
        rw [hx] at houtput
        obtain rfl : answer = .ok output := houtput
        have hjudge := (hitem turn h).2 output hexit
        rcases hw with ⟨e, he, -⟩ | ⟨facts₁, hfacts, hw⟩
        · cases hjudge.symm.trans he
        · obtain rfl := Except.ok.inj (hjudge.symm.trans hfacts)
          obtain ⟨u, v, st₂, hu, hmap, hv, hrest⟩ := ih hplan'
            (fun u r st₂ hu hr => hask _ r st₂ (.cons hx hu)
              (List.cons_prefix_cons.mpr ⟨rfl, hr⟩)) hw hc
          exact ⟨_, v, st₂, .cons hx hu, congrArg _ hmap, hv, hrest⟩

theorem checked_of_exitCode {output : Output} (h : output.exitCode = 0) :
    checked r (.ok output) = .ok output := if_pos h

theorem smooth_must (hr : r.forced = true) :
    (Item.always (must wrap r) : Item F ε).Smooth facts := by
  rintro turn ⟨⟩
  exact ⟨hr, fun output h => judge_of_eq_ok_iff.mpr ⟨output, checked_of_exitCode h, rfl⟩⟩

theorem smooth_tolerate (hr : r.forced = true) :
    (Item.always (tolerate wrap r) : Item F ε).Smooth facts := by
  rintro turn ⟨⟩
  exact ⟨hr, fun _ _ => rfl⟩

theorem smooth_of_none (h : item facts = none) : item.Smooth facts := fun turn hturn => by
  rw [h] at hturn
  cases hturn

theorem smooth_onlyIf {condition : F → Bool} (h : item.Smooth facts) :
    (Item.onlyIf condition item).Smooth facts := fun turn hturn =>
  h turn (Option.ite_none_right_eq_some.mp hturn).2

end Plan

end Testbed

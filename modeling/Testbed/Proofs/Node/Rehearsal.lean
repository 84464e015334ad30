import Mathlib.Data.List.Induction
import Testbed.Node.Rehearsal
import Testbed.Proofs.Rule

/-!
# What a rehearsed node answers

A rehearsed node is asked one request after the other. Its rules are consulted with the text of the
command alone, and every request is recorded, whatever is answered.

* `Gives`: the answer to a request that a response stands for.
* `Rehearses`: the answers to requests, with the rules that they are due to.

Results:
* `exists_run`: what requests make of a rehearsed node.
* `Rehearses.unique`: the rules and the requests leave no choice.

Headline: **`rehearsal_follows_rules`**: all of it, at every moment, and what becomes of a rule that
answers once and of one that always does.
-/

namespace Testbed.Rehearsal

open Rule (Casts FallsTo Remain choose response? spent)

variable {rules : List (Rule Rehearsed)} {requests : List Request} {r : Request}
  {response : Option Rehearsed} {choices choices' : List (Option Nat)} {answers answers' : List Answer}
  {answer : Answer} {choice : Option Nat} {t : Nat}

/-- **The answer to a request**: output as it stands, the failure that is rehearsed, with the line and
the limit of the request, or no output at all if no rule answers. -/
inductive Gives (r : Request) : Option Rehearsed → Answer → Prop
  | unmatched : Gives r none (.ok ⟨0, "", ""⟩)
  | output (output : Output) : Gives r (some (.output output)) (.ok output)
  | timeout : Gives r (some .timeout) (.error (.timedOut r.line (r.timeoutMs.getD 0)))
  | spawnFailure (reason : String) :
      Gives r (some (.spawnFailure reason)) (.error (.spawnFailed "mock" reason))

/-- **Requests are answered by rules**: for each a rule is chosen, by the text of its command, and the
answer is what the response of that rule gives. -/
structure Rehearses (rules : List (Rule Rehearsed)) (requests : List Request)
    (choices : List (Option Nat)) (answers : List Answer) : Prop where
  casts : Casts rules (requests.map (·.command)) choices
  length : answers.length = requests.length
  gives : ∀ (t : Nat) r choice answer, requests[t]? = some r → choices[t]? = some choice →
    answers[t]? = some answer → Gives r (response? rules choice) answer

theorem gives_answerOf (r : Request) (response : Option Rehearsed) :
    Gives r response (answerOf r response) := by
  cases response with
  | none => exact .unmatched
  | some response =>
    cases response with
    | output output => exact .output output
    | timeout => exact .timeout
    | spawnFailure reason => exact .spawnFailure reason

theorem Gives.eq_answerOf (h : Gives r response answer) : answer = answerOf r response := by
  cases h <;> rfl

/-- The answers that the chosen rules stand for. -/
def answersBy (rules : List (Rule Rehearsed)) (requests : List Request)
    (choices : List (Option Nat)) : List Answer :=
  List.zipWith (fun r choice => answerOf r (response? rules choice)) requests choices

theorem getElem?_answersBy (rules : List (Rule Rehearsed)) (hr : requests[t]? = some r)
    (hchoice : choices[t]? = some choice) :
    (answersBy rules requests choices)[t]? = some (answerOf r (response? rules choice)) := by
  unfold answersBy
  rw [List.getElem?_zipWith, hr, hchoice]

theorem length_answersBy (h : Casts rules (requests.map (·.command)) choices) :
    (answersBy rules requests choices).length = requests.length := by
  unfold answersBy
  rw [List.length_zipWith, h.length, List.length_map, Nat.min_self]

/-- The choices leave one way to answer. -/
theorem rehearses_iff : Rehearses rules requests choices answers ↔
    Casts rules (requests.map (·.command)) choices ∧ answers = answersBy rules requests choices := by
  constructor
  · intro h
    refine ⟨h.casts, List.ext_getElem? fun t => ?_⟩
    cases hr : requests[t]? with
    | none =>
      have hlength : requests.length ≤ t := List.getElem?_eq_none_iff.mp hr
      rw [List.getElem?_eq_none (h.length ▸ hlength),
        List.getElem?_eq_none (length_answersBy h.casts ▸ hlength)]
    | some r =>
      obtain ⟨hlt, -⟩ := List.getElem?_eq_some_iff.mp hr
      obtain ⟨choice, hchoice, -⟩ := h.casts.exists_choice (by rw [List.getElem?_map, hr]; rfl)
      rw [← h.length] at hlt
      have hanswer : answers[t]? = some answers[t] := List.getElem?_eq_getElem hlt
      rw [getElem?_answersBy rules hr hchoice, hanswer,
        (h.gives t r choice _ hr hchoice hanswer).eq_answerOf]
  · rintro ⟨hcasts, rfl⟩
    refine ⟨hcasts, length_answersBy hcasts, fun t r choice answer hr hchoice hanswer => ?_⟩
    rw [getElem?_answersBy rules hr hchoice] at hanswer
    cases hanswer
    exact gives_answerOf r _

/-- **The rules and the requests leave no choice.** -/
theorem Rehearses.unique (h : Rehearses rules requests choices answers)
    (h' : Rehearses rules requests choices' answers') : choices' = choices ∧ answers' = answers := by
  obtain ⟨hcasts, rfl⟩ := rehearses_iff.mp h
  obtain ⟨hcasts', rfl⟩ := rehearses_iff.mp h'
  rw [hcasts'.unique hcasts]
  exact ⟨rfl, rfl⟩

/-- One more request is answered, and recorded. -/
theorem mapM_execute_snoc (rehearsal : Rehearsal) (requests : List Request) (r : Request) :
    (requests ++ [r]).mapM execute rehearsal =
      ((requests.mapM execute rehearsal).1 ++ [(execute r (requests.mapM execute rehearsal).2).1],
        (execute r (requests.mapM execute rehearsal).2).2) := by
  rw [List.mapM_append, List.mapM_cons, List.mapM_nil]
  rfl

/-- **What requests make of a rehearsed node.** -/
theorem exists_run (rehearsal : Rehearsal) (requests : List Request) : ∃ choices,
    Casts rehearsal.rules (requests.map (·.command)) choices ∧
    requests.mapM execute rehearsal = (answersBy rehearsal.rules requests choices,
      ⟨spent rehearsal.rules choices, rehearsal.requests ++ requests⟩) := by
  induction requests using List.reverseRecOn with
  | nil =>
    refine ⟨[], .nil _, ?_⟩
    rw [Rule.spent_nil, List.append_nil]
    rfl
  | append_singleton requests r ih =>
    obtain ⟨choices, hcasts, hrun⟩ := ih
    refine ⟨choices ++ [choose rehearsal.rules choices r.command], ?_, ?_⟩
    · rw [List.map_append]
      exact hcasts.snoc (Rule.chosen_iff_choose.mpr rfl)
    · have hlength : requests.length = choices.length := by
        rw [hcasts.length, List.length_map]
      have hexecute : execute r ⟨spent rehearsal.rules choices, rehearsal.requests ++ requests⟩ =
          (answerOf r (response? rehearsal.rules (choose rehearsal.rules choices r.command)),
            ⟨spent rehearsal.rules (choices ++ [choose rehearsal.rules choices r.command]),
              rehearsal.requests ++ requests ++ [r]⟩) := by
        unfold execute
        simp only [Rule.answer_spent]
      unfold answersBy
      rw [mapM_execute_snoc, hrun, hexecute, List.zipWith_append hlength, List.append_assoc]
      rfl

/-- What the first requests have made of a rehearsed node. -/
theorem run_take {rehearsal : Rehearsal}
    (h : Rehearses rehearsal.rules requests choices answers) (t : Nat) :
    (requests.take t).mapM execute rehearsal = (answers.take t,
      ⟨spent rehearsal.rules (choices.take t), rehearsal.requests ++ requests.take t⟩) := by
  obtain ⟨hcasts, rfl⟩ := rehearses_iff.mp h
  obtain ⟨choices', hcasts', hrun⟩ := exists_run rehearsal (requests.take t)
  rw [List.map_take] at hcasts'
  rw [hrun, hcasts'.unique (hcasts.take t)]
  unfold answersBy
  rw [List.take_zipWith]

/-- **A rehearsed node follows its rules.**

For whatever requests, one after the other, there is one way in which the rules answer them: each by the
first rule, in the order of registration, whose pattern its command holds and which is not used up, and
by no output if there is none. This is how the node answers. At every moment it has recorded each
request once, in order, and of each rule is left what its answers leave: a count goes down by one with
each, and never below zero. A rule that answers once answers one request at most, which is the first
that falls to it; and a rule that always answers answers all that fall to it. -/
theorem rehearsal_follows_rules (rehearsal : Rehearsal) (requests : List Request) :
    ∃ choices answers, Rehearses rehearsal.rules requests choices answers ∧
      (∀ choices' answers', Rehearses rehearsal.rules requests choices' answers' →
        choices' = choices ∧ answers' = answers) ∧
      (∀ t, ∃ rules, (requests.take t).mapM execute rehearsal =
          (answers.take t, ⟨rules, rehearsal.requests ++ requests.take t⟩) ∧
        Remain rehearsal.rules (choices.take t) rules) ∧
      (∀ i pattern response, rehearsal.rules[i]? = some (.once pattern response) →
        choices.count (some i) ≤ 1 ∧ ∀ t, choices[t]? = some (some i) ↔
          FallsTo rehearsal.rules (requests.map (·.command)) choices t i ∧
          ∀ s < t, ¬ FallsTo rehearsal.rules (requests.map (·.command)) choices s i) ∧
      ∀ i pattern response, rehearsal.rules[i]? = some (.always pattern response) →
        ∀ t, choices[t]? = some (some i) ↔
          FallsTo rehearsal.rules (requests.map (·.command)) choices t i := by
  obtain ⟨choices, hcasts, -⟩ := exists_run rehearsal requests
  have h : Rehearses rehearsal.rules requests choices (answersBy rehearsal.rules requests choices) :=
    rehearses_iff.mpr ⟨hcasts, rfl⟩
  refine ⟨choices, _, h, fun choices' answers' h' => h.unique h', fun t => ?_, ?_, ?_⟩
  · exact ⟨_, run_take h t, (hcasts.take t).remains⟩
  · intro i pattern response hrule
    exact ⟨hcasts.count_le hrule rfl, fun t => hcasts.once_iff hrule rfl⟩
  · intro i pattern response hrule t
    exact hcasts.always_iff hrule rfl

/-- A node whose first look for a file finds none, and whose later ones take too long. -/
def slow : Rehearsal :=
  (({} : Rehearsal).respondOnce "test -e" (.output ⟨1, "", ""⟩)).respond "test" .timeout

/-- Two looks for a file, and another command. -/
def looks : List Request :=
  [{ command := "test -e /x" }, { command := "test -e /x" }, { command := "true" }]

theorem rehearses_slow : Rehearses slow.rules looks [some 0, some 1, none]
    [.ok ⟨1, "", ""⟩, .error (.timedOut "test -e /x" 0), .ok ⟨0, "", ""⟩] := by
  refine rehearses_iff.mpr ⟨⟨rfl, ?_⟩, rfl⟩
  intro t subject choice hsubject hchoice
  match t with
  | 0 | 1 | 2 =>
    cases hsubject
    cases hchoice
    decide +kernel
  | t + 3 => cases hchoice

/-- The second look falls through to the rule behind. -/
theorem rehearsal_follows_rules_slow :
    Rehearses slow.rules looks [some 0, some 1, none]
      [.ok ⟨1, "", ""⟩, .error (.timedOut "test -e /x" 0), .ok ⟨0, "", ""⟩] ∧
    (∃ rules, (looks.take 3).mapM execute slow =
        ([.ok ⟨1, "", ""⟩, .error (.timedOut "test -e /x" 0), .ok ⟨0, "", ""⟩], ⟨rules, looks⟩) ∧
      Remain slow.rules [some 0, some 1, none] rules) ∧
    slow.rules[0]? = some (.once "test -e" (.output ⟨1, "", ""⟩)) ∧
    FallsTo slow.rules (looks.map (·.command)) [some 0, some 1, none] 0 0 ∧
    slow.rules[1]? = some (.always "test" .timeout) ∧
    FallsTo slow.rules (looks.map (·.command)) [some 0, some 1, none] 1 1 := by
  obtain ⟨choices, answers, -, hunique, hrun, honce, halways⟩ := rehearsal_follows_rules slow looks
  obtain ⟨rfl, rfl⟩ := hunique _ _ rehearses_slow
  have hfirst : slow.rules[0]? = some (.once "test -e" (.output ⟨1, "", ""⟩)) := rfl
  have hsecond : slow.rules[1]? = some (.always "test" .timeout) := rfl
  refine ⟨rehearses_slow, hrun 3, hfirst, ?_, hsecond, ?_⟩
  · exact (((honce 0 _ _ hfirst).2 0).mp rfl).1
  · exact (halways 1 _ _ hsecond 1).mp rfl

end Testbed.Rehearsal

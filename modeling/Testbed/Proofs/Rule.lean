import Testbed.Rule

/-!
# Which rule answers

Rules are told apart by their places in the order in which they were registered. What a stand-in has
answered is told by its choices: for each subject, the place of the rule that answered it, or none.

* `Ready`: a rule that may answer a subject, after some choices.
* `Chosen`: the choice for a subject, which is the first rule that is ready.
* `Casts`: the choices for subjects that come one after the other.
* `FallsTo`: a subject that comes as far as a rule, whose pattern it holds.
* `Left`: what is left of a rule that has answered some times.

Results:
* `chosen_iff_choose`: the choice for a subject is the first rule that applies to it.
* `answer_spent`: what one subject makes of the rules.
* `Casts.unique`: the choices for some subjects are the only ones.
* `Casts.count_le`: no rule answers more often than its count allows.
* `Casts.chosen_iff`: a rule answers what falls to it, as long as it is not used up; so one without a
  count answers all of it (`Casts.always_iff`), and one that answers once the first (`Casts.once_iff`).
* `Casts.remains`: what the choices leave of the rules.
-/

namespace Testbed.Rule

variable {α : Type} {rules : List (Rule α)} {rule : Rule α} {past choices : List (Option Nat)}
  {subject : String} {subjects : List String} {choice : Option Nat} {i n t times : Nat}

/-- **A rule may answer a subject**, after some choices: the subject holds its pattern, and if it has a
count, it has not answered as often. -/
def Ready (rules : List (Rule α)) (past : List (Option Nat)) (subject : String) (i : Nat) : Prop :=
  ∃ rule, rules[i]? = some rule ∧ rule.pattern.toList <:+: subject.toList ∧
    ∀ n, rule.remaining = some n → past.count (some i) < n

/-- **The choice for a subject**, after some choices: the first rule that may answer it, or none. -/
inductive Chosen (rules : List (Rule α)) (past : List (Option Nat)) (subject : String) :
    Option Nat → Prop
  | first {i : Nat} (ready : Ready rules past subject i)
      (before : ∀ j < i, ¬ Ready rules past subject j) : Chosen rules past subject (some i)
  | nobody (unready : ∀ i, ¬ Ready rules past subject i) : Chosen rules past subject none

/-- The response of a choice. -/
def response? (rules : List (Rule α)) (choice : Option Nat) : Option α :=
  choice.bind fun i => rules[i]?.map (·.response)

/-- The choices for subjects that come one after the other. -/
structure Casts (rules : List (Rule α)) (subjects : List String) (choices : List (Option Nat)) :
    Prop where
  length : choices.length = subjects.length
  chosen : ∀ t subject choice, subjects[t]? = some subject → choices[t]? = some choice →
    Chosen rules (choices.take t) subject choice

/-- **A subject falls to a rule**: it holds the pattern of the rule, and no rule before that one may
answer it. -/
def FallsTo (rules : List (Rule α)) (subjects : List String) (choices : List (Option Nat))
    (t i : Nat) : Prop :=
  ∃ subject rule, subjects[t]? = some subject ∧ rules[i]? = some rule ∧
    rule.pattern.toList <:+: subject.toList ∧ ∀ j < i, ¬ Ready rules (choices.take t) subject j

/-- **What is left of a rule** that has answered some times: a rule without a count is as it was, and
of a count so much less is left. -/
inductive Left (rule : Rule α) (times : Nat) : Rule α → Prop
  | always (h : rule.remaining = none) : Left rule times rule
  | counted {left : Nat} (h : rule.remaining = some (left + times)) :
      Left rule times { rule with remaining := some left }

/-- **What some choices leave of the rules**: of each rule, what is left when it has answered as often
as it was chosen. -/
structure Remain (rules : List (Rule α)) (past : List (Option Nat)) (rules' : List (Rule α)) :
    Prop where
  length : rules'.length = rules.length
  left : ∀ (i : Nat) rule rule', rules[i]? = some rule → rules'[i]? = some rule' →
    Left rule (past.count (some i)) rule'

/-! ## One subject -/

/-- The first rule that applies answers and is used, and nothing else happens to the rules. -/
theorem answer_eq (subject : String) (rules : List (Rule α)) :
    answer subject rules = match rules.findIdx? (·.applies subject) with
      | some i => (response? rules (some i), rules.modify i used)
      | none => (none, rules) := by
  induction rules with
  | nil => rfl
  | cons rule rules ih =>
    rw [answer, List.findIdx?_cons]
    by_cases happlies : rule.applies subject = true
    · rw [if_pos happlies, if_pos happlies]
      rfl
    · rw [if_neg happlies, if_neg happlies, ih]
      cases rules.findIdx? (·.applies subject) <;> rfl

/-- A rule that has answered some times. -/
def after (rule : Rule α) (times : Nat) : Rule α :=
  { rule with remaining := rule.remaining.map (· - times) }

/-- The rules after some choices. -/
def spent (rules : List (Rule α)) (past : List (Option Nat)) : List (Rule α) :=
  rules.mapIdx fun i rule => rule.after (past.count (some i))

theorem getElem?_spent (rules : List (Rule α)) (past : List (Option Nat)) (i : Nat) :
    (spent rules past)[i]? = rules[i]?.map fun rule => rule.after (past.count (some i)) :=
  List.getElem?_mapIdx

theorem spent_nil (rules : List (Rule α)) : spent rules [] = rules := by
  refine List.ext_getElem? fun i => ?_
  rw [getElem?_spent]
  cases rules[i]? with
  | none => rfl
  | some rule =>
    obtain ⟨pattern, remaining, response⟩ := rule
    cases remaining <;> rfl

theorem used_after (rule : Rule α) (times : Nat) : (rule.after times).used = rule.after (times + 1) := by
  unfold after used
  cases rule.remaining <;> rfl

theorem applies_after : (rule.after times).applies subject = true ↔
    rule.pattern.toList <:+: subject.toList ∧ ∀ n, rule.remaining = some n → times < n := by
  unfold applies after Text.contains
  rw [Bool.and_eq_true, Text.occursIn_iff, and_comm]
  refine and_congr_right fun _ => ?_
  cases rule.remaining with
  | none => simp
  | some n => simp; omega

/-- The rules that apply now are those that are ready. -/
theorem ready_iff : Ready rules past subject i ↔
    ∃ rule, (spent rules past)[i]? = some rule ∧ rule.applies subject = true := by
  unfold Ready
  rw [getElem?_spent]
  constructor
  · rintro ⟨rule, hrule, h⟩
    exact ⟨_, by rw [hrule]; rfl, applies_after.mpr h⟩
  · rintro ⟨rule', hrule', h⟩
    obtain ⟨rule, hrule, rfl⟩ := Option.map_eq_some_iff.mp hrule'
    exact ⟨rule, hrule, applies_after.mp h⟩

/-- The rule that is chosen has answered once more. -/
theorem modify_spent (rules : List (Rule α)) (past : List (Option Nat)) (i : Nat) :
    (spent rules past).modify i used = spent rules (past ++ [some i]) := by
  refine List.ext_getElem? fun j => ?_
  rw [List.getElem?_modify, getElem?_spent, getElem?_spent, List.count_append]
  by_cases hij : i = j
  · subst hij
    cases rules[i]? with
    | none => rfl
    | some rule => simp [used_after]
  · cases rules[j]? with
    | none => rfl
    | some rule => simp [hij]

theorem spent_nobody (rules : List (Rule α)) (past : List (Option Nat)) :
    spent rules (past ++ [none]) = spent rules past := by
  unfold spent
  simp

/-- The first rule that applies now. -/
def choose (rules : List (Rule α)) (past : List (Option Nat)) (subject : String) : Option Nat :=
  (spent rules past).findIdx? (·.applies subject)

/-- **The first rule that applies is the choice.** -/
theorem chosen_iff_choose : Chosen rules past subject choice ↔ choose rules past subject = choice := by
  unfold choose
  constructor
  · intro h
    cases h with
    | nobody hnone =>
      refine List.findIdx?_eq_none_iff.mpr fun rule hrule => ?_
      obtain ⟨i, hi⟩ := List.mem_iff_getElem?.mp hrule
      rw [Bool.eq_false_iff]
      exact fun happlies => hnone i (ready_iff.mpr ⟨rule, hi, happlies⟩)
    | first hready hbefore =>
      obtain ⟨rule, hrule, happlies⟩ := ready_iff.mp hready
      obtain ⟨hi, rfl⟩ := List.getElem?_eq_some_iff.mp hrule
      refine List.findIdx?_eq_some_iff_getElem.mpr ⟨hi, happlies, fun j hj happlies' => ?_⟩
      exact hbefore j hj (ready_iff.mpr ⟨_, List.getElem?_eq_getElem _, happlies'⟩)
  · rintro rfl
    cases hfirst : (spent rules past).findIdx? (·.applies subject) with
    | none =>
      rw [List.findIdx?_eq_none_iff] at hfirst
      refine .nobody fun i hready => ?_
      obtain ⟨rule, hrule, happlies⟩ := ready_iff.mp hready
      rw [hfirst rule (List.mem_of_getElem? hrule)] at happlies
      cases happlies
    | some i =>
      obtain ⟨hi, happlies, hbefore⟩ := List.findIdx?_eq_some_iff_getElem.mp hfirst
      refine .first (ready_iff.mpr ⟨_, List.getElem?_eq_getElem hi, happlies⟩) fun j hj hready => ?_
      obtain ⟨rule, hrule, happlies'⟩ := ready_iff.mp hready
      obtain ⟨hlt, rfl⟩ := List.getElem?_eq_some_iff.mp hrule
      exact hbefore j hj happlies'

instance : Decidable (Chosen rules past subject choice) :=
  decidable_of_iff (choose rules past subject = choice) chosen_iff_choose.symm

/-- There is one choice. -/
theorem Chosen.unique {choice' : Option Nat} (h : Chosen rules past subject choice)
    (h' : Chosen rules past subject choice') : choice = choice' :=
  (chosen_iff_choose.mp h).symm.trans (chosen_iff_choose.mp h')

/-- **One subject**: the choice for it is made, and counts. -/
theorem answer_spent (rules : List (Rule α)) (past : List (Option Nat)) (subject : String) :
    answer subject (spent rules past) = (response? rules (choose rules past subject),
      spent rules (past ++ [choose rules past subject])) := by
  rw [answer_eq]
  unfold choose
  cases (spent rules past).findIdx? (·.applies subject) with
  | none =>
    rw [spent_nobody]
    rfl
  | some i =>
    simp only [modify_spent]
    unfold response?
    rw [Option.bind_some, Option.bind_some, getElem?_spent, Option.map_map]
    rfl

theorem left_after (h : ∀ n, rule.remaining = some n → times ≤ n) :
    Left rule times (rule.after times) := by
  cases hcount : rule.remaining with
  | none =>
    have hafter : rule.after times = rule := by
      unfold after
      rw [hcount, Option.map_none, ← hcount]
    rw [hafter]
    exact .always hcount
  | some n =>
    have hafter : rule.after times = { rule with remaining := some (n - times) } := by
      unfold after
      rw [hcount, Option.map_some]
    rw [hafter]
    refine .counted ?_
    rw [hcount, Nat.sub_add_cancel (h n hcount)]

/-! ## One subject after the other -/

theorem count_take_eq_zero_iff :
    (choices.take t).count choice = 0 ↔ ∀ s < t, choices[s]? ≠ some choice := by
  rw [List.count_eq_zero, List.mem_iff_getElem?]
  constructor
  · intro h s hs hchoice
    exact h ⟨s, by rwa [List.getElem?_take_of_lt hs]⟩
  · rintro h ⟨s, hchoice⟩
    by_cases hs : s < t
    · rw [List.getElem?_take_of_lt hs] at hchoice
      exact h s hs hchoice
    · rw [List.getElem?_take_eq_none (Nat.not_lt.mp hs)] at hchoice
      cases hchoice

namespace Casts

variable {choices' : List (Option Nat)}

theorem nil (rules : List (Rule α)) : Casts rules [] [] where
  length := rfl
  chosen := by simp

/-- One more subject, one more choice. -/
theorem snoc (h : Casts rules subjects choices) (hchosen : Chosen rules choices subject choice) :
    Casts rules (subjects ++ [subject]) (choices ++ [choice]) where
  length := by simp [h.length]
  chosen := by
    intro t subject' choice' hsubject hchoice
    rcases Nat.lt_trichotomy t choices.length with hlt | heq | hgt
    · rw [List.getElem?_append_left (h.length ▸ hlt)] at hsubject
      rw [List.getElem?_append_left hlt] at hchoice
      rw [List.take_append_of_le_length (Nat.le_of_lt hlt)]
      exact h.chosen t subject' choice' hsubject hchoice
    · rw [heq, List.getElem?_concat_length] at hchoice
      rw [heq, h.length, List.getElem?_concat_length] at hsubject
      cases hchoice
      cases hsubject
      rwa [heq, List.take_left]
    · rw [List.getElem?_eq_none (by simp; omega)] at hchoice
      cases hchoice

/-- The choices for the first subjects are the first choices. -/
theorem take (h : Casts rules subjects choices) (t : Nat) :
    Casts rules (subjects.take t) (choices.take t) where
  length := by simp [h.length]
  chosen := by
    intro s subject choice hsubject hchoice
    obtain ⟨hlt, -⟩ := List.getElem?_eq_some_iff.mp hchoice
    have hs : s < t := by
      rw [List.length_take] at hlt
      omega
    rw [List.getElem?_take_of_lt hs] at hsubject hchoice
    rw [List.take_take, Nat.min_eq_left (Nat.le_of_lt hs)]
    exact h.chosen s subject choice hsubject hchoice

/-- For each subject there is a choice. -/
theorem exists_choice (h : Casts rules subjects choices) (hsubject : subjects[t]? = some subject) :
    ∃ choice, choices[t]? = some choice ∧ Chosen rules (choices.take t) subject choice := by
  obtain ⟨hlt, -⟩ := List.getElem?_eq_some_iff.mp hsubject
  rw [← h.length] at hlt
  have hchoice : choices[t]? = some choices[t] := List.getElem?_eq_getElem hlt
  exact ⟨_, hchoice, h.chosen t subject _ hsubject hchoice⟩

/-- **The choices for some subjects are the only ones.** -/
theorem unique (h : Casts rules subjects choices) (h' : Casts rules subjects choices') :
    choices = choices' := by
  have htake : ∀ t, choices.take t = choices'.take t := by
    intro t
    induction t with
    | zero => rfl
    | succ t ih =>
      rw [List.take_add_one, List.take_add_one, ih]
      cases hsubject : subjects[t]? with
      | none =>
        have hlength : subjects.length ≤ t := List.getElem?_eq_none_iff.mp hsubject
        rw [List.getElem?_eq_none (h.length ▸ hlength), List.getElem?_eq_none (h'.length ▸ hlength)]
      | some subject =>
        obtain ⟨choice, hchoice, hchosen⟩ := h.exists_choice hsubject
        obtain ⟨choice', hchoice', hchosen'⟩ := h'.exists_choice hsubject
        rw [ih] at hchosen
        rw [hchoice, hchoice', hchosen.unique hchosen']
  have hall := htake subjects.length
  rwa [← h.length, List.take_length, h.length, ← h'.length, List.take_length] at hall

/-- **No rule answers more often than its count allows.** -/
theorem count_le (h : Casts rules subjects choices) (hrule : rules[i]? = some rule)
    (hcount : rule.remaining = some n) : choices.count (some i) ≤ n := by
  have htake : ∀ t, (choices.take t).count (some i) ≤ n := by
    intro t
    induction t with
    | zero => simp
    | succ t ih =>
      rw [List.take_add_one, List.count_append]
      by_cases hchoice : choices[t]? = some (some i)
      · -- The rule was ready, so it had answered less often.
        obtain ⟨hlt, -⟩ := List.getElem?_eq_some_iff.mp hchoice
        rw [h.length] at hlt
        cases h.chosen t _ _ (List.getElem?_eq_getElem hlt) hchoice with
        | first hready =>
          obtain ⟨rule', hrule', -, hless⟩ := hready
          rw [hrule] at hrule'
          cases hrule'
          have hlt := hless n hcount
          rw [hchoice]
          simp
          omega
      · have hzero : choices[t]?.toList.count (some i) = 0 := by
          rw [List.count_eq_zero]
          simpa using hchoice
        omega
  have hall := htake choices.length
  rwa [List.take_length] at hall

/-- What falls to a rule is answered by it, as long as it is not used up. -/
theorem chosen_iff (h : Casts rules subjects choices) (hrule : rules[i]? = some rule) :
    choices[t]? = some (some i) ↔ FallsTo rules subjects choices t i ∧
      ∀ n, rule.remaining = some n → (choices.take t).count (some i) < n := by
  constructor
  · intro hchoice
    obtain ⟨hlt, -⟩ := List.getElem?_eq_some_iff.mp hchoice
    rw [h.length] at hlt
    have hsubject := List.getElem?_eq_getElem hlt
    cases h.chosen t _ _ hsubject hchoice with
    | first hready hbefore =>
      obtain ⟨rule', hrule', hpattern, hless⟩ := hready
      rw [hrule] at hrule'
      cases hrule'
      exact ⟨⟨_, rule, hsubject, hrule, hpattern, hbefore⟩, hless⟩
  · rintro ⟨⟨subject, rule', hsubject, hrule', hpattern, hbefore⟩, hless⟩
    rw [hrule] at hrule'
    cases hrule'
    obtain ⟨choice, hchoice, hchosen⟩ := h.exists_choice hsubject
    have hready : Ready rules (choices.take t) subject i := ⟨rule, hrule, hpattern, hless⟩
    rw [hchoice, hchosen.unique (.first hready hbefore)]

/-- **A rule without a count answers all that falls to it.** -/
theorem always_iff (h : Casts rules subjects choices) (hrule : rules[i]? = some rule)
    (halways : rule.remaining = none) :
    choices[t]? = some (some i) ↔ FallsTo rules subjects choices t i := by
  rw [h.chosen_iff hrule, halways]
  simp

/-- **A rule that answers once answers the first that falls to it.** -/
theorem once_iff (h : Casts rules subjects choices) (hrule : rules[i]? = some rule)
    (honce : rule.remaining = some 1) :
    choices[t]? = some (some i) ↔ FallsTo rules subjects choices t i ∧
      ∀ s < t, ¬ FallsTo rules subjects choices s i := by
  have hfresh : ∀ t, (∀ n, rule.remaining = some n → (choices.take t).count (some i) < n) ↔
      ∀ s < t, choices[s]? ≠ some (some i) := by
    intro t
    rw [honce, ← count_take_eq_zero_iff]
    simp
  rw [h.chosen_iff hrule, hfresh]
  refine and_congr_right fun _ => ⟨fun hunused s hs hfalls => hunused s hs ?_, ?_⟩
  · rw [h.chosen_iff hrule, hfresh]
    exact ⟨hfalls, fun r hr => hunused r (Nat.lt_trans hr hs)⟩
  · intro hnone s hs hchoice
    exact hnone s hs ((h.chosen_iff hrule).mp hchoice).1

/-- **What the choices leave of the rules.** -/
theorem remains (h : Casts rules subjects choices) : Remain rules choices (spent rules choices) where
  length := List.length_mapIdx
  left := by
    intro i rule rule' hrule hrule'
    rw [getElem?_spent, hrule] at hrule'
    cases hrule'
    exact left_after fun n hcount => h.count_le hrule hcount

end Casts

end Testbed.Rule

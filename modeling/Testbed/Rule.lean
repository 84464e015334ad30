import Testbed.Text.Pieces

/-!
# Scripted answers

A stand-in answers by rules. A rule applies to every subject that holds its pattern, either always
or a number of times; the first rule that applies and is not used up answers, and only its count
goes down.
-/

namespace Testbed

/-- One rule of a stand-in. -/
structure Rule (α : Type) where
  /-- Applies to the subjects that hold this text. -/
  pattern : String
  /-- How many more times it may answer; any number of times if there is no count. -/
  remaining : Option Nat
  response : α
  deriving Repr, DecidableEq

namespace Rule

variable {α : Type}

/-- A rule that answers every subject that holds its pattern. -/
def always (pattern : String) (response : α) : Rule α := ⟨pattern, none, response⟩

/-- A rule that answers only the next subject that holds its pattern. -/
def once (pattern : String) (response : α) : Rule α := ⟨pattern, some 1, response⟩

/-- Whether the rule answers the subject. -/
def applies (rule : Rule α) (subject : String) : Bool :=
  rule.remaining != some 0 && Text.contains subject rule.pattern

/-- The rule after it has answered once. -/
def used (rule : Rule α) : Rule α := { rule with remaining := rule.remaining.map (· - 1) }

/-- The answer of the first rule that applies, and the rules after it. -/
def answer (subject : String) : List (Rule α) → Option α × List (Rule α)
  | [] => (none, [])
  | rule :: rules =>
    if rule.applies subject then (some rule.response, rule.used :: rules)
    else
      let (response, rest) := answer subject rules
      (response, rule :: rest)

end Rule

end Testbed

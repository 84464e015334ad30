import Testbed.Text.Numeral

/-!
# Dates and times

A date is `YYYY-MM-DD`, and the day must exist. A time is `hh:mm:ss` with an optional fraction, and
the sixtieth second is allowed. A moment is a date, a time, or both with an optional offset.
-/

namespace Testbed.Toml.Moment

open Text.Numeral (digits?)

/-- Whether a year has a 29th of February. -/
def isLeapYear (year : Nat) : Bool := year % 4 == 0 && (year % 100 != 0 || year % 400 == 0)

/-- The number of days of a month. -/
def monthLength (year month : Nat) : Nat :=
  if month = 2 then if isLeapYear year then 29 else 28
  else if [4, 6, 9, 11].contains month then 30
  else 31

/-- The text after a date. -/
def afterDate? : List Char → Option (List Char)
  | y₁ :: y₂ :: y₃ :: y₄ :: '-' :: m₁ :: m₂ :: '-' :: d₁ :: d₂ :: rest => do
    let year ← digits? [y₁, y₂, y₃, y₄]
    let month ← digits? [m₁, m₂]
    let day ← digits? [d₁, d₂]
    if 1 ≤ month ∧ month ≤ 12 ∧ 1 ≤ day ∧ day ≤ monthLength year month then some rest else none
  | _ => none

/-- The text after the hours and minutes of a time. -/
def afterMinutes? : List Char → Option (List Char)
  | h₁ :: h₂ :: ':' :: m₁ :: m₂ :: rest => do
    let hour ← digits? [h₁, h₂]
    let minute ← digits? [m₁, m₂]
    if hour < 24 ∧ minute < 60 then some rest else none
  | _ => none

/-- The text after a time. -/
def afterTime? (cs : List Char) : Option (List Char) := do
  match ← afterMinutes? cs with
  | ':' :: s₁ :: s₂ :: rest =>
    if (← digits? [s₁, s₂]) ≤ 60 then
      match rest with
      | '.' :: fraction =>
        if (fraction.takeWhile Char.isDigit).isEmpty then none
        else some (fraction.dropWhile Char.isDigit)
      | rest => some rest
    else none
  | _ => none

/-- The text after an offset. -/
def afterOffset? : List Char → Option (List Char)
  | 'Z' :: rest => some rest
  | 'z' :: rest => some rest
  | '+' :: rest => afterMinutes? rest
  | '-' :: rest => afterMinutes? rest
  | _ => none

/-- Whether a text is a date. -/
def isDate (cs : List Char) : Bool := afterDate? cs == some []

/-- Whether a text is a time. -/
def isTime (cs : List Char) : Bool := afterTime? cs == some []

/-- Whether a text is a time with an optional offset. -/
def isOffsetTime (cs : List Char) : Bool :=
  match afterTime? cs with
  | none => false
  | some [] => true
  | some rest => afterOffset? rest == some []

/-- Whether a text without spaces is a moment. -/
def isMoment (cs : List Char) : Bool :=
  isTime cs ||
    match afterDate? cs with
    | some [] => true
    | some (mark :: time) => (mark == 'T' || mark == 't') && isOffsetTime time
    | none => false

end Testbed.Toml.Moment

import Testbed.Toml.Item
import Testbed.Toml.Moment
import Testbed.Toml.Number
import Testbed.Toml.Quotation

/-!
# Keys and values

A key is one or more names with points between them, a value is a string, a word (a number, a truth
value, a date or a time), an array or an inline table. Arrays may go over several lines and end in a
comma, inline tables may not. `value` carries two bounds: how deep arrays and inline tables may
still be nested, and how many steps reading may take, for which the length of the text is enough.
-/

namespace Testbed.Toml

open Reader

/-- The nesting that is too deep, and the number of names that is too large for a key. -/
def depthLimit : Nat := 80

/-- Whether a character may stand in a name without quotes. -/
def isNameChar (c : Char) : Bool := c.isAlphanum || c == '_' || c == '-'

/-- Whether a character may stand in a word. -/
def isWordChar (c : Char) : Bool := isNameChar c || c == '+' || c == '.' || c == ':'

/-- One name of a key. -/
def name : Reader String := do
  match ← next? with
  | some '"' => Quotation.line
  | some '\'' => Quotation.line
  | _ =>
    let cs ← takeWhile isNameChar
    if cs.isEmpty then failure else pure (String.ofList cs)

/-- At most so many names with points between them. -/
def names : Nat → Reader (List String)
  | 0 => failure
  | n + 1 => do
    skipGap
    let first ← name
    skipGap
    if ← takeIf '.' then
      let rest ← names n
      pure (first :: rest)
    else pure [first]

/-- A key, with the gaps around it. -/
def key : Reader Key := do
  let all ← names (depthLimit - 1)
  pure ⟨all.dropLast, all.getLastD ""⟩

/-- What a word stands for. -/
def word? (cs : List Char) : Option Item :=
  if cs = "true".toList then some (.boolean true)
  else if cs = "false".toList then some (.boolean false)
  else if Moment.isMoment cs then some .datetime
  else if Number.isFloat cs then some .float
  else (Number.integer? cs).map Item.integer

/-- A word; a date may be followed by a space and a time. -/
def word : Reader Item := do
  let cs ← takeWhile isWordChar
  let rest ← get
  match rest with
  | ' ' :: after =>
    let time := after.takeWhile isWordChar
    if Moment.isDate cs && Moment.isOffsetTime time then set (after.drop time.length)
  | _ => pure ()
  match word? cs with
  | some item => pure item
  | none => failure

mutual

/-- A value. -/
def value (depth : Nat) : Nat → Reader Item
  | 0 => failure
  | n + 1 => do
    match ← next? with
    | some '"' => return .string (← Quotation.any)
    | some '\'' => return .string (← Quotation.any)
    | some '[' =>
      if depth = 0 then failure
      take '['
      return .array (← elements (depth - 1) n)
    | some '{' =>
      if depth = 0 then failure
      take '{'
      skipGap
      if ← takeIf '}' then return .table .inline []
      match Entries.ofPairs (← pairs (depth - 1) n) with
      | some entries => return .table .inline entries
      | none => failure
    | _ => word

/-- The elements up to the closing bracket. -/
def elements (depth : Nat) : Nat → Reader (List Item)
  | 0 => failure
  | n + 1 => do
    skipLines
    if ← takeIf ']' then return []
    let first ← value depth n
    skipLines
    if ← takeIf ',' then return first :: (← elements depth n)
    take ']'
    return [first]

/-- The pairs up to the closing brace. -/
def pairs (depth : Nat) : Nat → Reader (List (Key × Item))
  | 0 => failure
  | n + 1 => do
    let first ← key
    take '='
    skipGap
    let item ← value depth n
    skipGap
    if ← takeIf ',' then return (first, item) :: (← pairs depth n)
    take '}'
    return [(first, item)]

end

end Testbed.Toml

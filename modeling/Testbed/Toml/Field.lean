import Testbed.Toml.Item

/-!
# Fields

Reading typed values from items. A section is a table of named fields, or an array with a value for
each of the first fields; a field that is missing has its default value, and a name that is no field
is ignored.
-/

namespace Testbed.Toml

namespace Item

/-- The text of a string. -/
def string? : Item → Option String
  | .string value => some value
  | _ => none

/-- A truth value. -/
def boolean? : Item → Option Bool
  | .boolean value => some value
  | _ => none

/-- An integer that is not negative and lies below `limit`. -/
def natural? (limit : Nat) : Item → Option Nat
  | .integer value => if 0 ≤ value ∧ value < limit then some value.toNat else none
  | _ => none

/-- The texts of an array of strings. -/
def strings? : Item → Option (List String)
  | .array items => items.mapM string?
  | _ => none

/-- Whether an item is an empty array or an empty table. -/
def isVoid : Item → Bool
  | .array items => items.isEmpty
  | .tables elements => elements.isEmpty
  | .table _ entries => entries.isEmpty
  | _ => false

/-- The name of a choice: a string, or a table in which this name stands for nothing. -/
def choice? : Item → Option String
  | .string value => some value
  | .table _ [(name, item)] => if item.isVoid then some name else none
  | _ => none

/-- The fields of a section, whose names are given in order. A date or time is a section without
fields. -/
def fields? (names : List String) : Item → Option Entries
  | .table _ entries => some entries
  | .array items => some (names.zip items)
  | .tables elements => some (names.zip (elements.map (Item.table .header)))
  | .datetime => some []
  | _ => none

end Item

/-- The value of a field, which has a default. -/
def Entries.field {α : Type} (entries : Entries) (name : String) (read : Item → Option α)
    (default : α) : Option α :=
  match entries.lookup name with
  | none => some default
  | some item => read item

end Testbed.Toml

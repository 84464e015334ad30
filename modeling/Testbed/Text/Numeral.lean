/-!
# Reading decimal numerals

A numeral is an optional sign and ASCII digits, and its value must fit a given range. An unsigned
numeral takes `+` only. The first fault in reading order decides: an improper character that stands
before the digit that leaves the range is reported as such, and the other way round.
-/

namespace Testbed.Text.Numeral

/-- The bound of the unsigned numbers of so many bits. -/
def bound (bits : Nat) : Nat := Nat.pow 2 bits

/-- Why a text is not an unsigned numeral. -/
inductive Fault where
  | empty
  | invalidDigit
  | tooLarge
  deriving Repr, DecidableEq

/-- The wording of a fault. -/
def Fault.message : Fault → String
  | .empty => "cannot parse integer from empty string"
  | .invalidDigit => "invalid digit found in string"
  | .tooLarge => "number too large to fit in target type"

/-- The value of an ASCII digit. -/
def digit? (c : Char) : Option Nat := if c.isDigit then some (c.toNat - '0'.toNat) else none

/-- Appends digits to the number `value`, all values staying below `limit`. -/
def extend (limit : Nat) (value : Nat) : List Char → Except Fault Nat
  | [] => .ok value
  | c :: cs =>
    match digit? c with
    | none => .error .invalidDigit
    | some d =>
      if value * 10 + d < limit then extend limit (value * 10 + d) cs else .error .tooLarge

/-- The unsigned number below `limit` that the text names. -/
def read (limit : Nat) : List Char → Except Fault Nat
  | [] => .error .empty
  | ['+'] => .error .invalidDigit
  | '+' :: digits => extend limit 0 digits
  | digits => extend limit 0 digits

/-- The unsigned number below `limit` that the text names, if it names one. -/
def read? (limit : Nat) (cs : List Char) : Option Nat := (read limit cs).toOption

/-- The value of a text of one or more ASCII digits. -/
def digits? : List Char → Option Nat
  | [] => none
  | cs => cs.foldlM (fun value c => (digit? c).map (value * 10 + ·)) 0

/-- The value of a numeral with a sign or without, whatever its size. -/
def signed? : List Char → Option Int
  | '-' :: ds => (digits? ds).map fun n : Nat => -(n : Int)
  | '+' :: ds => (digits? ds).map Int.ofNat
  | ds => (digits? ds).map Int.ofNat

/-- The signed number of so many bits, its sign among them, that the text names, if it names one. -/
def readSigned? (bits : Nat) (cs : List Char) : Option Int :=
  let limit : Int := bound (bits - 1)
  (signed? cs).filter fun v => -limit ≤ v && v < limit

/-- The 32-bit signed number that the text names, if it names one. -/
def readInt32? (cs : List Char) : Option Int32 := (readSigned? 32 cs).map Int32.ofInt

end Testbed.Text.Numeral

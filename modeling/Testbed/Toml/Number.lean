import Testbed.Text.Numeral
import Testbed.Text.Pieces

/-!
# Numbers

An integer is decimal with an optional sign and no leading zero, or hexadecimal, octal or binary
with a mark in front; it must fit in 64 bits with a sign. A floating-point number has a fraction, an
exponent or both; one that is not negative must not be too large to be finite. Single underscores
may stand between digits.
-/

namespace Testbed.Toml.Number

/-- The value of a digit in a base up to sixteen. -/
def digit? (base : Nat) (c : Char) : Option Nat :=
  let value? :=
    if '0' ≤ c ∧ c ≤ '9' then some (c.toNat - '0'.toNat)
    else if 'a' ≤ c ∧ c ≤ 'f' then some (c.toNat - 'a'.toNat + 10)
    else if 'A' ≤ c ∧ c ≤ 'F' then some (c.toNat - 'A'.toNat + 10)
    else none
  value?.filter (· < base)

/-- The number that digits stand for. -/
def value? (base : Nat) (digits : List Char) : Option Nat :=
  digits.foldlM (fun n c => (digit? base c).map (n * base + ·)) 0

/-- The digits of a text in which single underscores may stand between digits. -/
def digits? (base : Nat) (cs : List Char) : Option (List Char) :=
  let groups := cs.splitOn '_'
  let isGroup (g : List Char) := !g.isEmpty && g.all fun c => (digit? base c).isSome
  if groups.all isGroup then some groups.flatten else none

/-- The digits of a decimal number without a leading zero. -/
def leadDigits? (cs : List Char) : Option (List Char) :=
  if cs.head? = some '0' && cs != ['0'] then none else digits? 10 cs

/-- The sign of a number, and the text after it. -/
def splitSign : List Char → Bool × List Char
  | '-' :: cs => (true, cs)
  | '+' :: cs => (false, cs)
  | cs => (false, cs)

/-- The integer that a text stands for. -/
def integer? (cs : List Char) : Option Int := do
  let value ← match cs with
    | '0' :: 'x' :: digits => marked 16 digits
    | '0' :: 'o' :: digits => marked 8 digits
    | '0' :: 'b' :: digits => marked 2 digits
    | cs => do
      let (negative, digits) := splitSign cs
      let n ← value? 10 (← leadDigits? digits)
      pure (if negative then -(n : Int) else n)
  if -limit ≤ value ∧ value < limit then some value else none
where
  /-- The bound of the integers. -/
  limit : Int := Text.Numeral.bound 63
  /-- The value of digits behind a mark. -/
  marked (base : Nat) (digits : List Char) : Option Int := do
    pure (Int.ofNat (← value? base (← digits? base digits)))

/-- A number that is not negative, as digits and a power of ten. -/
structure Scaled where
  significand : Nat
  exponent : Int

/-- The least number that rounds to no finite double: half a unit above the largest. -/
def overflowBound : Nat := Text.Numeral.bound 1024 - Text.Numeral.bound 970

/-- Whether the number rounds to no finite double. -/
def Scaled.overflows (x : Scaled) : Bool :=
  let magnitude : Int := (Nat.toDigits 10 x.significand).length + x.exponent
  if x.significand = 0 || magnitude < 300 then false
  else if 320 < magnitude then true
  else overflowBound * Nat.pow 10 (-x.exponent).toNat ≤ x.significand * Nat.pow 10 x.exponent.toNat

/-- An exponent. -/
def exponent? (cs : List Char) : Option Int := do
  let (negative, digits) := splitSign cs
  let n ← value? 10 (← digits? 10 digits)
  pure (if negative then -(n : Int) else n)

/-- The digits before and after the point, of which the latter are a fraction if there is a
point. -/
def significand? (cs : List Char) : Option (List Char × Option (List Char)) :=
  match Text.cutAt? '.' cs with
  | some (whole, fraction) => do
    pure (← leadDigits? whole, some (← digits? 10 fraction))
  | none => do pure (← leadDigits? cs, none)

/-- The number that a text with a fraction or an exponent stands for, without its sign. -/
def scaled? (cs : List Char) : Option Scaled := do
  let mantissa := cs.takeWhile fun c => c != 'e' && c != 'E'
  let (whole, fraction) ← significand? mantissa
  let digits := fraction.getD []
  let significand ← value? 10 (whole ++ digits)
  match cs.drop mantissa.length with
  | [] => if fraction.isNone then none else some ⟨significand, -(digits.length : Int)⟩
  | _ :: exponent => do pure ⟨significand, (← exponent? exponent) - digits.length⟩

/-- Whether a text is a floating-point number. -/
def isFloat (cs : List Char) : Bool :=
  let (negative, magnitude) := splitSign cs
  magnitude == "inf".toList || magnitude == "nan".toList ||
    (scaled? magnitude).any fun x => negative || !x.overflows

end Testbed.Toml.Number

import Testbed.Text.CaseTable

/-!
# Lower-casing

Each character goes to its lower-case form, by the simple mapping of the Unicode standard with two
exceptions: the dotted capital I becomes an i with a combining dot, and a capital sigma that ends a
word becomes the final form of the letter.
-/

namespace Testbed.Text

/-- Whether the character is a cased letter. -/
def isCased (c : Char) : Bool := casedRanges.contains c

/-- Whether the character is skipped in the search for a neighbouring letter. -/
def isCaseIgnorable (c : Char) : Bool := caseIgnorableRanges.contains c

/-- Whether the first character that counts is a cased letter. -/
def cased (cs : List Char) : Bool :=
  match cs.dropWhile isCaseIgnorable with
  | [] => false
  | c :: _ => isCased c

/-- The lower-case form of one character, apart from the forms that depend on its neighbours. -/
def lowerChar (c : Char) : List Char :=
  if c.toNat = 0x130 then ['i', '\u0307']
  else match lowerSteps.find? fun (low, high, step, _) =>
      low ≤ c.toNat && c.toNat ≤ high && (c.toNat - low) % step == 0 with
    | some (_, _, _, shift) => [Char.ofNat ((c.toNat : Int) + shift).toNat]
    | none => [c]

/-- Lower-cases a text that follows the characters `before`, the nearest first. -/
def lowerAfter (before : List Char) : List Char → List Char
  | [] => []
  | c :: cs =>
    let form :=
      if c = 'Σ' then (if cased before && !cased cs then ['ς'] else ['σ']) else lowerChar c
    form ++ lowerAfter (c :: before) cs

/-- `s` in lower case. -/
def lower (s : String) : String := String.ofList (lowerAfter [] s.toList)

end Testbed.Text

import Testbed.Text.Pieces

/-!
# Blank characters

A blank is a character with the Unicode property `White_Space`. Trimming removes blanks at the two
ends of a text, `words` are the runs of other characters.
-/

namespace Testbed.Text

/-- Whether the character has the property `White_Space`. -/
def isBlank (c : Char) : Bool :=
  (9 ≤ c.toNat && c.toNat ≤ 13) || c.toNat == 0x20 || c.toNat == 0x85 || c.toNat == 0xa0 ||
  c.toNat == 0x1680 || (0x2000 ≤ c.toNat && c.toNat ≤ 0x200a) || c.toNat == 0x2028 ||
  c.toNat == 0x2029 || c.toNat == 0x202f || c.toNat == 0x205f || c.toNat == 0x3000

/-- Whether the character is one of the two blanks that stand within lines, space and tab. -/
def isGap (c : Char) : Bool := c == ' ' || c == '\t'

/-- A text without the blanks it begins with. -/
def trimLeft (cs : List Char) : List Char := cs.dropWhile isBlank

/-- A text without the blanks it ends with. -/
def trimRight (cs : List Char) : List Char := dropRight isBlank cs

/-- A text without the blanks at its ends. -/
def trim (cs : List Char) : List Char := trimRight (trimLeft cs)

/-- The runs of characters other than blanks. -/
def words (cs : List Char) : List (List Char) :=
  (cs.splitOnP isBlank).filter fun p => !p.isEmpty

/-- `s` without the blanks at its ends. -/
def trimmed (s : String) : String := String.ofList (trim s.toList)

/-- Whether `s` is empty but for blanks. -/
def isBlankText (s : String) : Bool := (trim s.toList).isEmpty

/-! ## Laws -/

theorem ne_nil_of_mem_words {cs p : List Char} (h : p ∈ words cs) : p ≠ [] := by
  simpa using (List.mem_filter.mp h).2

/-- A word holds no blank. -/
theorem isBlank_of_mem_words {cs p : List Char} (h : p ∈ words cs) : ∀ c ∈ p, isBlank c = false :=
  not_of_mem_splitOnP (List.mem_filter.mp h).1

end Testbed.Text

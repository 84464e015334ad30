import Testbed.Node.Request

/-!
# Remembered results

A node keeps the result of each command line that ran without force, in the order in which the
lines were first answered. A line is entered only when it is not there yet.
-/

namespace Testbed

/-- The results that a node remembers, by command line. -/
structure Cache where
  entries : List (String × Output) := []
  deriving Repr, DecidableEq

namespace Cache

/-- The result remembered for a line. -/
def find? (cache : Cache) (line : String) : Option Output := cache.entries.lookup line

/-- Remembers the result of a line. -/
def remember (cache : Cache) (line : String) (output : Output) : Cache :=
  ⟨cache.entries ++ [(line, output)]⟩

/-- How many lines are remembered. -/
def size (cache : Cache) : Nat := cache.entries.length

/-- The remembered lines. -/
def lines (cache : Cache) : List String := cache.entries.map (·.1)

end Cache

end Testbed

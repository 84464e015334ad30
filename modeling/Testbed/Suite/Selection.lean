import Testbed.Text.Blank

/-!
# Which tests are run

`Suite.Settings` are what a configuration says of the choice of tests; a `Selection` is the choice
itself, in which no choice at all stands for the tests of the lite set. Lists are written with
commas between their items.
-/

namespace Testbed.Suite

/-- The items of a list that is written with commas: blanks around items and blank items do not
count. -/
def splitList (value : String) : List String :=
  (((value.toList.splitOn ',').map Text.trim).filter (!·.isEmpty)).map String.ofList

/-- The drive that is tested unless another, or none, is chosen. -/
def defaultDrive : String := "/dev/sdc"

/-- The choice of tests in a configuration. -/
structure Settings where
  /-- The tests to run; the lite set if there are none. -/
  tests : List String := []
  skipTests : List String := []
  /-- The drive that is tested. -/
  drive : Option String := some defaultDrive
  deriving Repr, DecidableEq

/-- The name of a drive as it is given by hand; a blank one stands for no drive. -/
def readDrive (value : String) : Option String :=
  let drive := Text.trimmed value
  if drive.isEmpty then none else some drive

/-- The tests of the lite set. -/
def liteTests : List String := ["math", "fsx", "ipc", "mm", "sched", "pty", "fs"]

/-- The tests to run if these are asked for. -/
def orLite (tests : List String) : List String := if tests.isEmpty then liteTests else tests

/-- The tests of one run. -/
structure Selection where
  tests : List String := liteTests
  skipTests : List String := []
  drive : Option String := some defaultDrive
  deriving Repr, DecidableEq

namespace Selection

/-- The selection of two lists that are written with commas. -/
def ofStrings (tests skipTests : String) : Selection where
  tests := orLite (splitList tests)
  skipTests := splitList skipTests

/-- The selection of a configuration. -/
def ofSettings (s : Settings) : Selection := ⟨orLite s.tests, s.skipTests, s.drive⟩

end Selection

end Testbed.Suite

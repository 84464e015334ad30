/-!
# Test records

What is known of one test after a run: its name, how it ended, and the version and architecture it
ran on.
-/

namespace Testbed

/-- How far a test has come. -/
inductive Status where
  | queued
  | passed
  | failed
  | skipped
  deriving Repr, DecidableEq

namespace Status

/-- All statuses, in the order in which they are counted. -/
def all : List Status := [.queued, .passed, .failed, .skipped]

/-- The name of a status. -/
def name : Status → String
  | .queued => "QUEUED"
  | .passed => "PASSED"
  | .failed => "FAILED"
  | .skipped => "SKIPPED"

/-- The status of a name. -/
def ofName? (name : String) : Option Status := all.find? (·.name == name)

/-- Whether the test has come to an end. -/
def isCompleted (status : Status) : Bool := status != .queued

/-! ## Laws -/

theorem ofName?_name (status : Status) : ofName? status.name = some status := by
  cases status <;> decide

end Status

/-- The outcome of one test. -/
structure Record where
  /-- The release of the test suite. -/
  version : String
  /-- The architecture of the machine that ran the test. -/
  architecture : String
  name : String
  status : Status
  /-- The exit value of the test program. -/
  exitValue : Int32
  deriving Repr, DecidableEq

/-- The names of the tests that failed, in order. -/
def failedNames (records : List Record) : List String :=
  (records.filter (·.status = .failed)).map (·.name)

end Testbed

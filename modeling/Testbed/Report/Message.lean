import Testbed.Record

/-!
# Messages about tests

What is reported of one test: the suite it belongs to, its status, and further information by name.
-/

namespace Testbed.Report

/-- A message about one test. -/
structure Message where
  name : String
  suite : String
  status : Status
  message : String := ""
  /-- Further information by name. -/
  information : List (String × String) := []
  deriving Repr, DecidableEq

namespace Message

/-- The name of the test within its suite. -/
def fullName (m : Message) : String := m.suite ++ "." ++ m.name

/-- Whether the test has come to an end. -/
def isCompleted (m : Message) : Bool := m.status.isCompleted

/-- What is reported of a record. -/
def ofRecord (suite : String) (record : Record) : Message where
  name := record.name
  suite := suite
  status := record.status
  information := [("architecture", record.architecture),
    ("exit_value", toString record.exitValue.toInt), ("version", record.version)]

end Message

end Testbed.Report

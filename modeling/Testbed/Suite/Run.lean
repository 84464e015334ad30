import Testbed.Report.Notifier
import Testbed.Run.Runner
import Testbed.Suite.Selection
import Testbed.Text.Quoted

/-!
# A run of the suite

`run` runs the selected tests, reports every record in order, and then fails if a test failed. A
notifier that fails ends the reporting, and is the reason given even when tests failed.
-/

namespace Testbed.Suite

/-- The name of the suite in reports. -/
def suiteName : String := "LtpTestsuite"

/-- Why a run of the suite fails. -/
inductive SuiteError where
  | testsFailed (names : List String)
  | run (error : RunError)
  | notifier (error : Report.NotifierError)
  deriving Repr, DecidableEq

/-- The wording of an error. -/
def SuiteError.message : SuiteError → String
  | .testsFailed names => "The following tests failed: " ++ Text.quotedList names
  | .run error => error.message
  | .notifier error => s!"Notifier error: {error.message}"

/-- Fails with the names of the tests that failed, if any did. -/
def checkFailures (records : List Record) : Except SuiteError Unit :=
  let names := failedNames records
  if names.isEmpty then .ok () else .error (.testsFailed names)

/-- What is reported of records. -/
def messages (records : List Record) : List Report.Message :=
  records.map (Report.Message.ofRecord suiteName)

/-- Reports records and checks for failures. -/
def report (hub : Report.Hub) (records : List Record) :
    Report.Hub × Except SuiteError (List Record) :=
  match hub.deliver (messages records) with
  | (hub, .error e) => (hub, .error (.notifier e))
  | (hub, .ok ()) => (hub, (checkFailures records).map fun _ => records)

/-- Runs the selected tests and reports their records. -/
def run (runner : Runner) (selection : Selection) (hub : Report.Hub) :
    Requests (Report.Hub × Except SuiteError (List Record)) := do
  match ← (runner.runTests selection.tests selection.skipTests selection.drive).run with
  | .error e => pure (hub, .error (.run e))
  | .ok records => pure (report hub records)

end Testbed.Suite

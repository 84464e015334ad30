/-!
# How tests are run

`Settings` name the files of a run and its limit. A drive that is put under test either takes the
place of the log files on the command line or is added to them; that is the `DrivePolicy`.
-/

namespace Testbed.Run

/-- What a drive does to the log files on the command line. -/
inductive DrivePolicy where
  | replace
  | additive
  deriving Repr, DecidableEq

namespace DrivePolicy

/-- All policies. -/
def all : List DrivePolicy := [.replace, .additive]

/-- The name of a policy. -/
def name : DrivePolicy → String
  | .replace => "replace"
  | .additive => "additive"

/-- The policy of a name. -/
def ofName? (name : String) : Option DrivePolicy := all.find? (·.name == name)

theorem ofName?_name (policy : DrivePolicy) : ofName? policy.name = some policy := by
  cases policy <;> decide

end DrivePolicy

/-- The files of a run on the node, and its limit. -/
structure Settings where
  resultLog : String := "/opt/ltp/ltp-results.log"
  outputLog : String := "/opt/ltp/ltp-output.log"
  skipFile : String := "/opt/ltp/skipfile"
  runTimeoutSecs : Nat := 12000
  drivePolicy : DrivePolicy := .replace
  deriving Repr, DecidableEq

/-- How long a run may take, in milliseconds. -/
def Settings.runLimitMs (s : Settings) : Nat := s.runTimeoutSecs * 1000

end Testbed.Run

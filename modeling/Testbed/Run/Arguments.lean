import Testbed.Run.Settings
import Testbed.Shell.Quote

/-!
# The command line of a run

`Mode.flags` are the arguments that a mode stands for, and `arguments` is the text of all arguments
of the program that runs tests, each quoted for the shell.
-/

namespace Testbed.Run

/-- Where a run logs to, and the drive it tests. -/
inductive Mode where
  | logged (resultLog outputLog : String)
  | drive (device : String)
  | loggedDrive (resultLog outputLog device : String)
  deriving Repr, DecidableEq

namespace Mode

/-- The mode for a drive, or for none. -/
def select (s : Settings) (drive : Option String) : Mode :=
  match drive, s.drivePolicy with
  | none, _ => .logged s.resultLog s.outputLog
  | some device, .replace => .drive device
  | some device, .additive => .loggedDrive s.resultLog s.outputLog device

/-- The flags for the log files, before they are quoted. -/
def logFlags (resultLog outputLog : String) : List String :=
  ["-p", "-q", "-l", resultLog, "-o", outputLog]

/-- The arguments that a mode stands for, before they are quoted. -/
def flags : Mode → List String
  | .logged resultLog outputLog => logFlags resultLog outputLog
  | .drive device => ["-z", device]
  | .loggedDrive resultLog outputLog device => logFlags resultLog outputLog ++ ["-z", device]

end Mode

/-- The argument vector of a run. -/
def argumentVector (mode : Mode) (tests : List String) (skipFile : Option String) :
    List String :=
  mode.flags ++ ["-f", String.intercalate "," tests] ++
    skipFile.toList.flatMap fun path => ["-S", path]

/-- The arguments of a run as text for the shell. -/
def arguments (mode : Mode) (tests : List String) (skipFile : Option String) : String :=
  String.intercalate " " ((argumentVector mode tests skipFile).map Shell.quote)

/-- The content of the skip file, if there is anything to skip: a test a line, without a line end
after the last. -/
def skipContent? (skipTests : List String) : Option String :=
  if skipTests.isEmpty then none else some (String.intercalate "\n" skipTests)

end Testbed.Run

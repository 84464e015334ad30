import Testbed.Host.Action
import Testbed.Install.Settings
import Testbed.Run.Settings
import Testbed.Suite.Selection

/-!
# Settings

All that a run can be told: which node, how tests are run and installed, which tests, and where the
summary goes. `Settings.check` finds the first thing that cannot work.
-/

namespace Testbed

/-- Where reports go. -/
structure Report.Settings where
  /-- The file that the summary is written to, if it is written. -/
  resultFile : Option String := none
  deriving Repr, DecidableEq

/-- The settings of the command line. -/
structure Settings where
  node : Ssh.Settings := {}
  run : Run.Settings := {}
  install : Install.Settings := {}
  suite : Suite.Settings := {}
  report : Report.Settings := {}
  deriving Repr, DecidableEq

/-- Why there are no settings to work with. -/
inductive SettingsError where
  /-- The file cannot be read. -/
  | unreadable (path : String) (fault : Host.FileFault)
  /-- The text of the file does not describe settings. -/
  | malformed (path : String)
  /-- The port in the environment is none. -/
  | invalidPort (value : String)
  /-- A file on the node is not named from the root; the field that names it. -/
  | relativePath (field path : String)
  | zeroRunTimeout
  /-- A test cannot have this name. -/
  | invalidTest (name : String)
  | node (fault : Ssh.Fault)
  | install (fault : Install.Fault)
  deriving Repr, DecidableEq

namespace SettingsError

/-- The wording of a value that a field cannot have. -/
def invalidValue (field reason : String) : String := s!"Invalid value for {field}: {reason}"

/-- The wording of an error. -/
def message : SettingsError → String
  | .unreadable path fault => s!"Failed to read configuration file {path}: {fault.message}"
  | .malformed path => s!"Invalid TOML in {path}"
  | .invalidPort value => invalidValue "LTP_NODE_PORT" s!"'{value}' is not a port number"
  | .relativePath field path => invalidValue field s!"'{path}' must be an absolute path"
  | .zeroRunTimeout => invalidValue "ltp.run_timeout_secs" "must be greater than 0"
  | .invalidTest name => invalidValue "suite" s!"invalid test name '{name}'"
  | .node fault => s!"Invalid configuration: {fault.message}"
  | .install fault => s!"Invalid configuration: {fault.message}"

end SettingsError

namespace Settings

/-- The files of a run on the node, each with the field that names it. -/
def runFiles (s : Settings) : List (String × String) :=
  [("ltp.result_log", s.run.resultLog), ("ltp.output_log", s.run.outputLog),
    ("ltp.skip_file", s.run.skipFile)]

/-- Whether a test can have this name. -/
def isTestName (name : String) : Bool :=
  !Text.isBlankText name && !name.toList.contains ',' && !name.toList.contains '\n'

/-- The first thing about the settings that cannot work. -/
def fault? (s : Settings) : Option SettingsError :=
  (s.node.fault?.map .node).or <|
  (s.install.fault?.map .install).or <|
  ((s.runFiles.find? fun (_, path) => !Text.startsWith path "/").map fun (field, path) =>
    .relativePath field path).or <|
  (if s.run.runTimeoutSecs = 0 then some .zeroRunTimeout else none).or <|
  ((s.suite.tests ++ s.suite.skipTests).find? (!isTestName ·)).map .invalidTest

/-- Fails with the first thing about the settings that cannot work. -/
def check (s : Settings) : Except SettingsError Unit :=
  match s.fault? with
  | some e => .error e
  | none => .ok ()

end Settings

end Testbed

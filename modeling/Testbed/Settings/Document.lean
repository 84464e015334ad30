import Testbed.Settings
import Testbed.Toml.Document
import Testbed.Toml.Field
import Testbed.Toml.Printer

/-!
# Settings as a document

Settings are written as a TOML document with five sections, and read from one. In a document that is
read every section and every field may be missing and then has its default; what is neither is
ignored. An option that is not set is not written, and cannot be written as not set.
-/

namespace Testbed.Settings

open Toml

/-- The bound of the numbers that settings hold. -/
def numberLimit : Nat := Text.Numeral.bound 64

/-- The text of an option that is set. -/
def someString? (item : Item) : Option (Option String) := item.string?.map some

/-- The number of a port. -/
def readPort (item : Item) : Option UInt16 := (item.natural? Ssh.portLimit).map Nat.toUInt16

/-! ## Reading -/

/-- The fields of the section on the node. -/
def nodeFields : List String :=
  ["host", "port", "user", "identity_file", "connect_timeout_secs", "default_timeout_secs",
    "strict_host_key_checking", "extra_options"]

/-- The settings of the node. -/
def readNode (item : Item) : Option Ssh.Settings := do
  let fields ← item.fields? nodeFields
  let default : Ssh.Settings := {}
  pure {
    host := ← fields.field "host" Item.string? default.host
    port := ← fields.field "port" readPort default.port
    user := ← fields.field "user" Item.string? default.user
    identityFile := ← fields.field "identity_file" someString? default.identityFile
    connectTimeoutSecs :=
      ← fields.field "connect_timeout_secs" (Item.natural? numberLimit) default.connectTimeoutSecs
    defaultTimeoutSecs :=
      ← fields.field "default_timeout_secs" (Item.natural? numberLimit) default.defaultTimeoutSecs
    strictHostKeyChecking :=
      ← fields.field "strict_host_key_checking" Item.boolean? default.strictHostKeyChecking
    extraOptions := ← fields.field "extra_options" Item.strings? default.extraOptions }

/-- The fields of the section on runs. -/
def runFields : List String :=
  ["result_log", "output_log", "skip_file", "run_timeout_secs", "drive_policy"]

/-- The settings of runs. -/
def readRun (item : Item) : Option Run.Settings := do
  let fields ← item.fields? runFields
  let default : Run.Settings := {}
  pure {
    resultLog := ← fields.field "result_log" Item.string? default.resultLog
    outputLog := ← fields.field "output_log" Item.string? default.outputLog
    skipFile := ← fields.field "skip_file" Item.string? default.skipFile
    runTimeoutSecs :=
      ← fields.field "run_timeout_secs" (Item.natural? numberLimit) default.runTimeoutSecs
    drivePolicy :=
      ← fields.field "drive_policy" (fun i => i.choice?.bind Run.DrivePolicy.ofName?)
        default.drivePolicy }

/-- The fields of the section on the installation. -/
def installFields : List String :=
  ["git_url", "git_tag", "install_prefix", "dir_name", "required_disk_gb", "min_swap_mb",
    "swap_file", "swap_file_size_mb", "build_timeout_secs"]

/-- The settings of the installation. -/
def readInstall (item : Item) : Option Install.Settings := do
  let fields ← item.fields? installFields
  let default : Install.Settings := {}
  pure {
    gitUrl := ← fields.field "git_url" Item.string? default.gitUrl
    gitTag := ← fields.field "git_tag" Item.string? default.gitTag
    installRoot := ← fields.field "install_prefix" Item.string? default.installRoot
    directoryName := ← fields.field "dir_name" Item.string? default.directoryName
    requiredDiskGb :=
      ← fields.field "required_disk_gb" (Item.natural? numberLimit) default.requiredDiskGb
    minSwapMb := ← fields.field "min_swap_mb" (Item.natural? numberLimit) default.minSwapMb
    swapFile := ← fields.field "swap_file" Item.string? default.swapFile
    swapFileSizeMb :=
      ← fields.field "swap_file_size_mb" (Item.natural? numberLimit) default.swapFileSizeMb
    buildTimeoutSecs :=
      ← fields.field "build_timeout_secs" (Item.natural? numberLimit) default.buildTimeoutSecs }

/-- The fields of the section on the choice of tests. -/
def suiteFields : List String := ["tests", "skip_tests", "drive"]

/-- The choice of tests. -/
def readSuite (item : Item) : Option Suite.Settings := do
  let fields ← item.fields? suiteFields
  let default : Suite.Settings := {}
  pure {
    tests := ← fields.field "tests" Item.strings? default.tests
    skipTests := ← fields.field "skip_tests" Item.strings? default.skipTests
    drive := ← fields.field "drive" someString? default.drive }

/-- The fields of the section on reports. -/
def reportFields : List String := ["result_file"]

/-- The settings of reports. -/
def readReport (item : Item) : Option Report.Settings := do
  let fields ← item.fields? reportFields
  pure { resultFile := ← fields.field "result_file" someString? none }

/-- The settings of a document. -/
def ofEntries? (entries : Entries) : Option Settings := do
  pure {
    node := ← entries.field "node" readNode {}
    run := ← entries.field "ltp" readRun {}
    install := ← entries.field "install" readInstall {}
    suite := ← entries.field "suite" readSuite {}
    report := ← entries.field "report" readReport {} }

/-- The settings that a text describes. -/
def read? (text : String) : Option Settings := do ofEntries? (← Entries.read? text)

/-! ## Writing -/

/-- The field of an option, if it is set. -/
def optional (name : String) (value : Option String) : List (String × Plain) :=
  value.toList.map fun text => (name, .string text)

/-- The section on the node. -/
def nodeSection (s : Ssh.Settings) : Section where
  name := "node"
  fields :=
    [("host", .string s.host), ("port", .number s.port.toNat), ("user", .string s.user)] ++
    optional "identity_file" s.identityFile ++
    [("connect_timeout_secs", .number s.connectTimeoutSecs),
      ("default_timeout_secs", .number s.defaultTimeoutSecs),
      ("strict_host_key_checking", .boolean s.strictHostKeyChecking),
      ("extra_options", .strings s.extraOptions)]

/-- The section on runs. -/
def runSection (s : Run.Settings) : Section where
  name := "ltp"
  fields := [("result_log", .string s.resultLog), ("output_log", .string s.outputLog),
    ("skip_file", .string s.skipFile), ("run_timeout_secs", .number s.runTimeoutSecs),
    ("drive_policy", .string s.drivePolicy.name)]

/-- The section on the installation. -/
def installSection (s : Install.Settings) : Section where
  name := "install"
  fields := [("git_url", .string s.gitUrl), ("git_tag", .string s.gitTag),
    ("install_prefix", .string s.installRoot), ("dir_name", .string s.directoryName),
    ("required_disk_gb", .number s.requiredDiskGb), ("min_swap_mb", .number s.minSwapMb),
    ("swap_file", .string s.swapFile), ("swap_file_size_mb", .number s.swapFileSizeMb),
    ("build_timeout_secs", .number s.buildTimeoutSecs)]

/-- The section on the choice of tests. -/
def suiteSection (s : Suite.Settings) : Section where
  name := "suite"
  fields := [("tests", .strings s.tests), ("skip_tests", .strings s.skipTests)] ++
    optional "drive" s.drive

/-- The section on reports. -/
def reportSection (s : Report.Settings) : Section where
  name := "report"
  fields := optional "result_file" s.resultFile

/-- The sections of settings. -/
def sections (s : Settings) : List Section :=
  [nodeSection s.node, runSection s.run, installSection s.install, suiteSection s.suite,
    reportSection s.report]

/-- The text of settings; there is none if a number is too large for the format. -/
def text? (s : Settings) : Option String := Printer.document? s.sections

end Testbed.Settings

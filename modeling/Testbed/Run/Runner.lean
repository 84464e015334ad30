import Testbed.Install.Build
import Testbed.Record.Log
import Testbed.Run.Arguments

/-!
# Running tests on a node

`runTests` is a whole run: it makes sure that the suite is installed, removes what an earlier run
left behind, writes the tests to skip, runs the chosen tests and reads the log. Whether tests failed
is told by the log alone; the exit code of the run is not looked at.
-/

namespace Testbed

/-- Why a run has no records. -/
inductive RunError where
  | invalidArgument (reason : String)
  | log (error : LogError)
  | node (error : NodeError)
  | install (error : InstallError)
  deriving Repr, DecidableEq

/-- The wording of an error. -/
def RunError.message : RunError → String
  | .invalidArgument reason => s!"Invalid argument: {reason}"
  | .log error => s!"Failed to parse LTP results: {error.message}"
  | .node error => s!"Execution failed: {error.message}"
  | .install error => s!"Provisioning failed: {error.message}"

/-- What a runner works with. -/
structure Runner where
  run : Run.Settings
  install : Install.Settings
  deriving Repr, DecidableEq

namespace Runner

/-- A script of requests that belongs to a run. -/
abbrev Step := NodeScript RunError

/-- A step made of an operation on the node. -/
def onNode {α : Type} (operation : NodeScript NodeError α) : Step α :=
  ExceptT.adapt RunError.node operation

/-- Makes sure that the suite is installed. -/
def ensureInstalled (runner : Runner) : Step Unit := ExceptT.adapt RunError.install do
  if !(← Install.isInstalled runner.install) then Install.install runner.install

/-- The files that a run leaves behind. -/
def staleFiles (runner : Runner) : List String :=
  [runner.run.skipFile, runner.run.resultLog, runner.run.outputLog]

/-- Removes what an earlier run left behind. -/
def removeStaleFiles (runner : Runner) : Step Unit :=
  runner.staleFiles.forM fun path => onNode (Node.removeFile path true)

/-- Writes the tests to skip to the skip file, if there are any; the path of the file if so. -/
def writeSkipFile (runner : Runner) (skipTests : List String) : Step (Option String) :=
  match Run.skipContent? skipTests with
  | none => pure none
  | some content => do
    onNode (Node.writeFile runner.run.skipFile content true)
    pure (some runner.run.skipFile)

/-- The command that runs tests. -/
def command (runner : Runner) (tests : List String) (skipFile drive : Option String) : String :=
  runner.install.binaryPath ++ " " ++
    Run.arguments (Run.Mode.select runner.run drive) tests skipFile

/-- The request that runs tests. -/
def request (runner : Runner) (tests : List String) (skipFile drive : Option String) : Request :=
  ⟨runner.command tests skipFile drive, true, true, none, some runner.run.runLimitMs⟩

/-- The records of the result log. -/
def parseResults (runner : Runner) : Step (List Record) := do
  let log ← onNode (Node.readText runner.run.resultLog true true)
  ExceptT.mk (pure ((Log.read runner.install.gitTag log).mapError RunError.log))

/-- The output that the tests wrote. -/
def readOutputLog (runner : Runner) : Step String :=
  onNode (Node.readText runner.run.outputLog true true)

/-- Runs tests and reads their records. -/
def runTests (runner : Runner) (tests skipTests : List String) (drive : Option String) :
    Step (List Record) := do
  if tests.isEmpty then throw (.invalidArgument "ltp tests cannot be empty")
  runner.ensureInstalled
  runner.removeStaleFiles
  let skipFile ← runner.writeSkipFile skipTests
  let _ ← onNode (Node.execute (runner.request tests skipFile drive))
  runner.parseResults

end Runner

end Testbed

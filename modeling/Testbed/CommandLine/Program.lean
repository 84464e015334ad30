import Testbed.CommandLine.Syntax
import Testbed.Record.Json
import Testbed.Settings.Load
import Testbed.Suite.Run

/-!
# What the commands do

Each command is a script of actions on this machine that may fail. The settings in force are those
of the file, overridden by the environment and then by the options; a command that acts on a node
checks them before it does anything else.

A run registers its notifiers before it sends anything to the node, and lets them finish whatever
becomes of the run, so that the summary is printed and written in any case.
-/

namespace Testbed.CommandLine

/-- Why a command fails. -/
inductive Failure where
  | settings (error : SettingsError)
  /-- A number of the settings is too large to be written. -/
  | unwritable
  | node (error : NodeError)
  | run (error : RunError)
  | suite (error : Suite.SuiteError)
  | notifier (error : Report.NotifierError)
  | file (fault : Host.FileFault)
  | log (error : LogError)
  deriving Repr, DecidableEq

/-- The wording of a failure. -/
def Failure.message : Failure → String
  | .settings error => error.message
  | .unwritable => "the settings hold a number that is too large to be written"
  | .node error => error.message
  | .run error => error.message
  | .suite error => error.message
  | .notifier error => error.message
  | .file fault => fault.message
  | .log error => error.message

/-- A script of actions on this machine that may fail. -/
abbrev Task := ExceptT Failure HostScript

/-- A task whose outcome is known. -/
def decided {ε α : Type} (failure : ε → Failure) (outcome : Except ε α) : Task α :=
  ExceptT.mk (pure (outcome.mapError failure))

/-- A task that cannot fail. -/
def always {α : Type} (script : HostScript α) : Task α := ExceptT.lift script

/-- A task made of a script that may fail. -/
def attempt {ε α : Type} (failure : ε → Failure) (script : HostScript (Except ε α)) : Task α := do
  decided failure (← always script)

/-! ## Settings -/

/-- The settings for the node that is meant. -/
def Target.apply (target : Target) (s : Settings) : Settings :=
  { s with node := { s.node with
      host := target.host.getD s.node.host
      user := target.user.getD s.node.user
      port := target.port.getD s.node.port
      identityFile := target.identity.or s.node.identityFile } }

/-- The settings for a run. -/
def RunOptions.apply (options : RunOptions) (s : Settings) : Settings :=
  let s := options.target.apply s
  { s with
    suite := {
      tests := (options.tests.map Suite.splitList).getD s.suite.tests
      skipTests := (options.skip.map Suite.splitList).getD s.suite.skipTests
      drive := (options.drive.map Suite.readDrive).getD s.suite.drive }
    report := { resultFile := options.resultFile.or s.report.resultFile } }

/-! ## Acting on a node -/

/-- The way to the node. -/
def transport (s : Settings) (here : Bool) : Except NodeError Transport :=
  if here then .ok (.shell "sh" (s.node.defaultTimeoutSecs * 1000)) else Transport.ssh? s.node

/-- Carries requests out on the node at the end of a way, which remembers results. -/
def carryOut {α : Type} (way : Transport) (requests : Requests α) : StateT Cache HostScript α :=
  requests.run (Node.serve (way.execute Host.start))

/-- What runs tests with the settings. -/
def runner (s : Settings) : Runner := ⟨s.run, s.install⟩

/-! ## Commands -/

/-- The notifiers of a run. -/
def openHub (s : Settings) : Task Report.Hub := do
  let hub : Report.Hub := [.log, .console []]
  match s.report.resultFile with
  | none => pure hub
  | some path => pure (hub.register (← attempt .notifier (Report.Notifier.text? path)))

/-- Runs the suite; fails also if a test failed. -/
def runSuite (s : Settings) (here showOutput : Bool) : Task Unit := do
  let way ← decided .node (transport s here)
  let hub ← openHub s
  let selection := Suite.Selection.ofSettings s.suite
  let ((hub, outcome), cache) ← always ((carryOut way (Suite.run (runner s) selection hub)).run {})
  attempt .notifier hub.finalize
  if showOutput then
    let (text, _) ← always ((carryOut way (runner s).readOutputLog.run).run cache)
    always (Host.print (← decided .run text))
  let _ ← decided .suite outcome

/-- Makes sure that the suite is installed, and says where. -/
def installSuite (s : Settings) (here : Bool) : Task Unit := do
  let way ← decided .node (transport s here)
  let (outcome, _) ← always ((carryOut way (runner s).ensureInstalled.run).run {})
  decided .run outcome
  always (Host.print ("LTP is installed at " ++ s.install.binaryPath))

/-- Prints the records of a log at hand, as JSON or as the summary table. -/
def parseLog (path version : String) (json : Bool) : Task Unit := do
  let log ← attempt .file (Host.read path)
  let records ← decided .log (Log.read version log)
  if json then always (Host.print (Json.records records))
  else always ((Report.table (Suite.messages records)).forM Host.print)

/-- Prints settings. -/
def showSettings (s : Settings) : Task Unit := do
  match s.text? with
  | some text => always (Host.print text)
  | none => throw .unwritable

/-- Carries a command out, from settings that no option has changed yet. -/
def Command.perform (base : Settings) : Command → Task Unit
  | .run options => do
    let s := options.apply base
    decided .settings s.check
    runSuite s options.target.here options.showOutput
  | .install target => do
    let s := target.apply base
    decided .settings s.check
    installSuite s target.here
  | .parse log version json => parseLog log (version.getD base.install.gitTag) json
  | .showConfig target => showSettings (target.apply base)

/-- Carries an order out. -/
def Order.perform (order : Order) (env : Environment) : Task Unit := do
  order.command.perform (← attempt .settings (Settings.load order.settingsFile env))

/-! ## The program -/

/-- How the program ends. -/
inductive Outcome where
  | done
  | failed (failure : Failure)
  | stopped (stop : Stop)
  deriving Repr, DecidableEq

/-- The exit code of the program. -/
def Outcome.exitCode : Outcome → UInt8
  | .done => 0
  | .failed _ => 1
  | .stopped .help => 0
  | .stopped .usage => 2

/-- The program: reads its arguments and carries them out. -/
def program (arguments : List String) (env : Environment) : HostScript Outcome := do
  match read arguments with
  | .error stop => pure (.stopped stop)
  | .ok order =>
    match ← (order.perform env).run with
    | .ok () => pure .done
    | .error failure => pure (.failed failure)

end Testbed.CommandLine

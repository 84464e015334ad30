import Testbed.Proofs.Install.Remembered
import Testbed.Proofs.Run.Plan

/-!
# What a run of tests says is new

A node answers from memory what it may. A log is never read that way, nor are tests run that way: both
are forced. Of what the runner and the installer ask, only the quiet requests are not, so that nothing
else is ever remembered of them, and nothing that changes a node is left out.

* `prepare`: what is done before the tests are run.
* `judgeText`, `judgeLog`: what the answers to the requests for a text and for the result log come to.
* `Operation`: what the runner and the installer do with a node. `performAll` does it in turn, whether
  it fails or not.

Results:
* `runOn_parseResults`, `runOn_readOutputLog`, `runOn_runTests`: a call, told by the answers that the
  world gives in it.
* `ordinary_performAll`: what the operations ask is forced or quiet.

Headline: **`logs_are_fresh`**: both of these, for every node and all operations.
-/

namespace Testbed.Runner

open Node (AsksOnly Asks Conversation Exchange Forced Plays serve serving)
open Install (Ordinary quietRequests)

variable {σ α : Type} (runner : Runner) (tests skipTests : List String) (drive : Option String)
  (exec : Request → StateM σ Answer) (cache : Cache) (st : σ)

/-! ## Calls that read a log -/

/-- The request for the text of a file. -/
def textRequest (path : String) : Request := ⟨"cat " ++ Shell.quote path, true, true, none, none⟩

/-- What the answer to the request for a text comes to. -/
def judgeText (path : String) (answer : Answer) : Except RunError String :=
  ((Plan.checked (textRequest path) answer).bind fun output => .ok output.stdout).mapError .node

/-- What the answer to the request for the result log comes to. -/
def judgeLog (answer : Answer) : Except RunError (List Record) :=
  (judgeText runner.run.resultLog answer).bind fun log =>
    (Log.read runner.install.gitTag log).mapError .log

/-- What is done before the tests are run. The result is the path of the skip file, if one is
written. -/
def prepare : Step (Option String) := do
  if tests.isEmpty then throw (.invalidArgument "ltp tests cannot be empty")
  runner.ensureInstalled
  runner.removeStaleFiles
  runner.writeSkipFile skipTests

theorem readText_eq (path : String) : onNode (Node.readText path true true) =
    Plan.Turn.script ⟨textRequest path, judgeText path⟩ := by
  have htext : Node.readText path true true = Plan.Turn.script
      ⟨textRequest path, fun answer => (Plan.checked (textRequest path) answer).bind fun output =>
        .ok output.stdout⟩ := by
    rw [Node.readText, Plan.executeChecked_eq]
    exact Plan.script_bind_mk ⟨textRequest path, _⟩ fun output : Output => .ok output.stdout
  rw [htext, onNode, Plan.adapt_script]
  rfl

theorem parseResults_eq : runner.parseResults =
    Plan.Turn.script ⟨textRequest runner.run.resultLog, runner.judgeLog⟩ := by
  rw [parseResults, readText_eq, Plan.script_bind_mk]
  rfl

/-- The records are those that the world tells of now. -/
theorem runOn_parseResults : runner.parseResults.runOn exec cache st =
    ((runner.judgeLog (exec (textRequest runner.run.resultLog) st).1, cache),
      (exec (textRequest runner.run.resultLog) st).2) := by
  rw [parseResults_eq, Node.runOn_turn, Node.serve_of_forced rfl]

/-- The output is what the world tells of now. -/
theorem runOn_readOutputLog : runner.readOutputLog.runOn exec cache st =
    ((judgeText runner.run.outputLog (exec (textRequest runner.run.outputLog) st).1, cache),
      (exec (textRequest runner.run.outputLog) st).2) := by
  rw [readOutputLog, readText_eq, Node.runOn_turn, Node.serve_of_forced rfl]

theorem runTests_eq_prepare : runner.runTests tests skipTests drive =
    runner.prepare tests skipTests >>= fun skipFile =>
      onNode (Node.execute (runner.request tests skipFile drive)) >>= fun _ =>
        runner.parseResults := by
  rw [runTests, prepare]
  split
  · rfl
  · simp only [bind_assoc]

/-- **A run of tests** that is prepared runs the tests and reads the log, and tells what the world
answers. -/
theorem runOn_runTests : (runner.runTests tests skipTests drive).runOn exec cache st =
    match (runner.prepare tests skipTests).runOn exec cache st with
    | ((.error e, cache'), st') => ((.error e, cache'), st')
    | ((.ok skipFile, cache'), st') =>
      match exec (runner.request tests skipFile drive) st' with
      | (.error e, st₁) => ((.error (.node e), cache'), st₁)
      | (.ok _, st₁) => ((runner.judgeLog (exec (textRequest runner.run.resultLog) st₁).1, cache'),
        (exec (textRequest runner.run.resultLog) st₁).2) := by
  rw [runTests_eq_prepare, Node.runOn_bind]
  generalize (runner.prepare tests skipTests).runOn exec cache st = result
  obtain ⟨⟨_ | skipFile, cache'⟩, st'⟩ := result
  · rfl
  · show (onNode (Node.execute (runner.request tests skipFile drive)) >>= fun _ =>
      runner.parseResults).runOn exec cache' st' = _
    rw [Plan.execute_eq, onNode, Plan.adapt_script, Node.runOn_turn_bind rfl]
    simp only [runOn_parseResults]
    generalize exec (runner.request tests skipFile drive) st' = answered
    obtain ⟨_ | _, st₁⟩ := answered <;> rfl

/-! ## What a runner asks -/

theorem forced_removeStaleFiles : AsksOnly Forced runner.removeStaleFiles :=
  Node.asksOnly_forM fun _ _ => Node.asksOnly_adapt (Node.asksOnly_perform rfl)

theorem forced_writeSkipFile : AsksOnly Forced (runner.writeSkipFile skipTests) := by
  unfold writeSkipFile
  split
  · exact Node.asksOnly_pure _
  · exact Node.asksOnly_bind (Node.asksOnly_adapt (Node.asksOnly_perform rfl)) fun _ =>
      Node.asksOnly_pure _

theorem forced_parseResults : AsksOnly Forced runner.parseResults := by
  rw [parseResults_eq]
  exact Node.asksOnly_script rfl

theorem forced_readOutputLog : AsksOnly Forced runner.readOutputLog := by
  rw [readOutputLog, readText_eq]
  exact Node.asksOnly_script rfl

theorem ordinary_ensureInstalled : AsksOnly Ordinary runner.ensureInstalled := by
  refine Node.asksOnly_adapt (Node.asksOnly_bind
    (Install.ordinary_of_forced (Install.forced_isInstalled _)) fun present => ?_)
  cases present with
  | true => exact Node.asksOnly_pure ()
  | false => exact Install.ordinary_install _

theorem ordinary_prepare : AsksOnly Ordinary (runner.prepare tests skipTests) := by
  have hrest : AsksOnly Ordinary (runner.ensureInstalled >>= fun _ =>
      runner.removeStaleFiles >>= fun _ => runner.writeSkipFile skipTests) :=
    Node.asksOnly_bind runner.ordinary_ensureInstalled fun _ =>
      Node.asksOnly_bind (Install.ordinary_of_forced runner.forced_removeStaleFiles) fun _ =>
        Install.ordinary_of_forced (runner.forced_writeSkipFile skipTests)
  unfold prepare
  split
  · exact Node.asksOnly_mk _
  · exact hrest

theorem ordinary_runTests : AsksOnly Ordinary (runner.runTests tests skipTests drive) := by
  have hexecute : ∀ skipFile, AsksOnly Forced
      (onNode (Node.execute (runner.request tests skipFile drive))) := by
    intro skipFile
    rw [Plan.execute_eq]
    exact Node.asksOnly_adapt (Node.asksOnly_script rfl)
  rw [runTests_eq_prepare]
  exact Node.asksOnly_bind (runner.ordinary_prepare tests skipTests) fun skipFile =>
    Install.ordinary_of_forced
      (Node.asksOnly_bind (hexecute skipFile) fun _ => runner.forced_parseResults)

end Testbed.Runner

namespace Testbed

open Node (Asks Conversation Exchange Plays serve serving settled)
open Install (Ordinary quietRequests)
open Runner (judgeText textRequest)

/-! ## Operations in turn -/

/-- What the runner and the installer do with a node: an installation, its stages, and what is done
with the tests. -/
inductive Operation where
  | detectSystem
  | refreshIndex (family : Os.Family)
  | installPackages (family : Os.Family) (packages : List String)
  | installDependencies (system : Os.System)
  | tuneRealTime
  | ensureSwap (s : Install.Settings)
  | tuneDirtyPages
  | build (s : Install.Settings)
  | isInstalled (s : Install.Settings)
  | install (s : Install.Settings)
  | ensureInstalled (runner : Runner)
  | runTests (runner : Runner) (tests skipTests : List String) (drive : Option String)
  | parseResults (runner : Runner)
  | readOutputLog (runner : Runner)

namespace Operation

/-- A script whatever comes of it. -/
def whatever {ε α : Type} (x : NodeScript ε α) : Requests Unit := (fun _ => ()) <$> x.run

/-- The requests of an operation. -/
def script : Operation → Requests Unit
  | detectSystem => whatever Install.detectSystem
  | refreshIndex family => whatever (Install.refreshIndex family)
  | installPackages family packages => whatever (Install.installPackages family packages)
  | installDependencies system => whatever (Install.installDependencies system)
  | tuneRealTime => whatever Install.tuneRealTime
  | ensureSwap s => whatever (Install.ensureSwap s)
  | tuneDirtyPages => whatever Install.tuneDirtyPages
  | build s => whatever (Install.build s)
  | isInstalled s => whatever (Install.isInstalled s)
  | install s => whatever (Install.install s)
  | ensureInstalled runner => whatever runner.ensureInstalled
  | runTests runner tests skipTests drive => whatever (runner.runTests tests skipTests drive)
  | parseResults runner => whatever runner.parseResults
  | readOutputLog runner => whatever runner.readOutputLog

theorem asks_whatever {ε α : Type} {P : Request → Prop} {x : NodeScript ε α}
    (h : Node.AsksOnly P x) : Asks P (whatever x) := by
  rw [whatever, map_eq_pure_bind]
  exact Node.asks_bind h fun _ => trivial

/-- An operation asks nothing without force but the quiet requests. -/
theorem ordinary_script (op : Operation) : Asks Ordinary op.script := by
  cases op with
  | detectSystem => exact asks_whatever Install.ordinary_detectSystem
  | refreshIndex family => exact asks_whatever (Install.ordinary_refreshIndex family)
  | installPackages family packages =>
    exact asks_whatever (Install.ordinary_of_forced (Install.forced_installPackages family packages))
  | installDependencies system => exact asks_whatever (Install.ordinary_installDependencies system)
  | tuneRealTime => exact asks_whatever (Install.ordinary_of_forced Install.forced_tuneRealTime)
  | ensureSwap s => exact asks_whatever (Install.ordinary_of_forced (Install.forced_ensureSwap s))
  | tuneDirtyPages => exact asks_whatever (Install.ordinary_of_forced Install.forced_tuneDirtyPages)
  | build s => exact asks_whatever (Install.ordinary_build s)
  | isInstalled s => exact asks_whatever (Install.ordinary_of_forced (Install.forced_isInstalled s))
  | install s => exact asks_whatever (Install.ordinary_install s)
  | ensureInstalled runner => exact asks_whatever runner.ordinary_ensureInstalled
  | runTests runner tests skipTests drive =>
    exact asks_whatever (runner.ordinary_runTests tests skipTests drive)
  | parseResults runner => exact asks_whatever (Install.ordinary_of_forced runner.forced_parseResults)
  | readOutputLog runner =>
    exact asks_whatever (Install.ordinary_of_forced runner.forced_readOutputLog)

/-- Operations one after the other, whatever comes of each. -/
def performAll : List Operation → Requests Unit
  | [] => pure ()
  | op :: ops => do
    op.script
    performAll ops

theorem ordinary_performAll (ops : List Operation) : Asks Ordinary (performAll ops) := by
  induction ops with
  | nil => trivial
  | cons op ops ih => exact Node.asks_bind op.ordinary_script fun _ => ih

end Operation

/-- The lines of the quiet requests. -/
def quietLines : List String :=
  ["cat /etc/os-release", "nproc", "sudo -n sh -c 'apt-get update -q'",
    "sudo -n sh -c 'zypper --non-interactive refresh'"]

theorem line_mem_quietLines : ∀ r ∈ quietRequests, r.line ∈ quietLines := by decide +kernel

variable {σ : Type}

/-- What operations on a fresh node come to that is asked the requests of `t`, and the world behind it
those of `u`. -/
structure Freshness (exec : Request → StateM σ Answer) (st : σ) (ops : List Operation)
    (t u : List Exchange) (cache : Cache) (st' : σ) : Prop where
  /-- The operations ask this of the node, -/
  asked : Plays (Operation.performAll ops) t ()
  served : Conversation (serving exec) ({}, st) t (cache, st')
  /-- and the node asks that of the world, in the same order. -/
  passed : Conversation exec st u st'
  order : u.Sublist t
  /-- Nothing is asked without force but the quiet requests, -/
  ordinary : ∀ x ∈ t, x.1.forced = true ∨ x.1 ∈ quietRequests
  /-- what is forced is never left out, -/
  forced : (t.filter fun x => x.1.forced).Sublist u
  /-- and nothing but the quiet lines is remembered. -/
  lines : ∀ line ∈ cache.lines, line ∈ quietLines

theorem exists_freshness (exec : Request → StateM σ Answer) (st : σ) (ops : List Operation) :
    ∃ t u cache st', (Operation.performAll ops).run (serve exec) {} st = (((), cache), st') ∧
      Freshness exec st ops t u cache st' := by
  generalize hrun : (Operation.performAll ops).run (serve exec) {} st = result
  obtain ⟨⟨⟨⟩, cache⟩, st'⟩ := result
  obtain ⟨t, hplays, hserved⟩ := Node.run_serve_eq_iff.mp hrun
  obtain ⟨u, hpassed, horder, hforced, hentries⟩ := hserved.exists_passed
  have hlearnt : cache.entries = u.filterMap settled := hentries
  have hordinary := hplays.asks (Operation.ordinary_performAll ops)
  refine ⟨t, u, cache, st', rfl, hplays, hserved, hpassed, horder, hordinary, hforced, ?_⟩
  intro line hline
  rw [Cache.lines, hlearnt, List.mem_map] at hline
  obtain ⟨⟨_, output⟩, hmem, rfl⟩ := hline
  obtain ⟨x, hx, hsettled⟩ := List.mem_filterMap.mp hmem
  obtain ⟨r, rfl, hquiet, hline⟩ := Node.settled_eq_some_iff.mp hsettled
  rcases hordinary _ (horder.subset hx) with hr | hr
  · cases hquiet.symm.trans hr
  · exact hline ▸ line_mem_quietLines r hr

/-- **What is told is new.** Whatever a node remembers, and so whatever has been done with it before,
reading a log and running tests asks the world behind it, and tells what it answers then. And of all
that the runner and the installer do with a fresh node, nothing that is forced is left out, and nothing
is remembered but the quiet lines. -/
theorem logs_are_fresh :
    (∀ (σ : Type) (exec : Request → StateM σ Answer) (cache : Cache) (st : σ) (runner : Runner),
      runner.parseResults.runOn exec cache st =
        ((runner.judgeLog (exec (textRequest runner.run.resultLog) st).1, cache),
          (exec (textRequest runner.run.resultLog) st).2) ∧
      runner.readOutputLog.runOn exec cache st =
        ((judgeText runner.run.outputLog (exec (textRequest runner.run.outputLog) st).1, cache),
          (exec (textRequest runner.run.outputLog) st).2) ∧
      ∀ tests skipTests drive, (runner.runTests tests skipTests drive).runOn exec cache st =
        match (runner.prepare tests skipTests).runOn exec cache st with
        | ((.error e, cache'), st') => ((.error e, cache'), st')
        | ((.ok skipFile, cache'), st') =>
          match exec (runner.request tests skipFile drive) st' with
          | (.error e, st₁) => ((.error (.node e), cache'), st₁)
          | (.ok _, st₁) =>
            ((runner.judgeLog (exec (textRequest runner.run.resultLog) st₁).1, cache'),
              (exec (textRequest runner.run.resultLog) st₁).2)) ∧
    ∀ (σ : Type) (exec : Request → StateM σ Answer) (st : σ) (ops : List Operation),
      ∃ t u cache st', (Operation.performAll ops).run (serve exec) {} st = (((), cache), st') ∧
        Freshness exec st ops t u cache st' :=
  ⟨fun _ exec cache st runner => ⟨runner.runOn_parseResults exec cache st,
    runner.runOn_readOutputLog exec cache st,
    fun tests skipTests drive => runner.runOn_runTests tests skipTests drive exec cache st⟩,
    fun _ exec st ops => exists_freshness exec st ops⟩

end Testbed

import Testbed.Proofs.CommandLine.Verdict
import Testbed.Proofs.Report.Table
import Testbed.Proofs.Suite.Offering

/-!
# All tables of a log are the same

A log is reported in three ways: its table is printed when it is read from a file at hand, printed when
it is the result log of a run, and written to the result file of the run. Each table is made elsewhere.

* `relabel`: a record with another version.
* `Runner.ReadsBack`: the tests of a run come to their end, and the result log reads back as a text.

Results:
* `read_relabel`: whether a log is read, and as what, does not depend on the version.
* `lines_table`: the lines below the rows count the lines of the log that report a test.
* `run_of_readsBack`: how the suite ends on a log.

Headline: **`tables_agree`**: all three tables have the same lines, with these counts.
-/

namespace Testbed

open Report (Hub Message Notifier count countLine table)

/-! ## Versions -/

/-- A record with another version. -/
def Record.relabel (version : String) (r : Record) : Record := { r with version := version }

namespace Log

variable {version log : String} {records : List Record}

/-- **The version is only written down**: whether a log is read does not depend on it. -/
theorem read_relabel (h : read version log = .ok records) (version' : String) :
    read version' log = .ok (records.map (·.relabel version')) := by
  obtain ⟨architecture, harchitecture, hrecords⟩ := exists_recorded h
  refine read_of_reads ?_
  rw [harchitecture]
  refine .records ?_
  rw [List.forall₂_map_right_iff]
  exact hrecords.imp fun e r hr => ⟨rfl, hr.architecture_eq, hr.name_eq, hr.status, hr.exitValue⟩

end Log

/-- The version is not in the table. -/
theorem table_relabel (records : List Record) (version : String) :
    table (Suite.messages (records.map (·.relabel version))) = table (Suite.messages records) := by
  have hrows : (Suite.messages (records.map (·.relabel version))).map Report.row =
      (Suite.messages records).map Report.row := by
    simp only [Suite.messages, List.map_map]
    rfl
  have hlength : (Suite.messages (records.map (·.relabel version))).length =
      (Suite.messages records).length := by
    simp only [Suite.messages, List.length_map]
  have hcounts : countLine (Suite.messages (records.map (·.relabel version))) =
      countLine (Suite.messages records) := by
    funext status
    simp only [countLine, count, Suite.messages, List.map_map, List.countP_map]
    rfl
  rw [table, table, hrows, hlength, hcounts]

theorem failedNames_relabel (records : List Record) (version : String) :
    failedNames (records.map (·.relabel version)) = failedNames records := by
  rw [failedNames, List.filter_map, List.map_map]
  rfl

/-! ## Counts -/

variable {records : List Record}

/-- The lines below the rows of a table in which no test is queued. -/
def footer (total passed failed skipped : Nat) : List String :=
  ["test result summary", "    TOTAL    : " ++ toString total, "    QUEUED   : 0",
    "    PASSED   : " ++ toString passed, "    FAILED   : " ++ toString failed,
    "    SKIPPED  : " ++ toString skipped]

theorem count_messages (records : List Record) (status : Status) :
    count (Suite.messages records) status = records.countP (·.status = status) := by
  rw [count, Suite.messages, List.countP_map]
  rfl

/-- **Below the rows** stand the number of all tests and the numbers by status. -/
theorem lines_table (records : List Record) (hcompleted : ∀ r ∈ records, r.status.isCompleted = true) :
    table (Suite.messages records) = Report.rule :: (Suite.messages records).map Report.row ++
      footer records.length (records.countP (·.status = .passed)) (failedNames records).length
        (records.countP (·.status = .skipped)) := by
  have hqueued : records.countP (·.status = .queued) = 0 := by
    rw [List.countP_eq_zero]
    intro r hr hstatus
    have hr := hcompleted r hr
    rw [of_decide_eq_true hstatus] at hr
    cases hr
  have hfailed : (failedNames records).length = records.countP (·.status = .failed) := by
    rw [failedNames, List.length_map, List.countP_eq_length_filter]
  have hnone : "    QUEUED   : " ++ toString 0 = "    QUEUED   : 0" := by decide +kernel
  have hlength : (Suite.messages records).length = records.length := List.length_map _
  rw [Report.table_eq, count_messages, count_messages, count_messages, count_messages, hqueued, hfailed,
    hlength, Report.summary, footer, hnone]

/-! ## The suite on a log -/

section
variable {σ : Type} {exec : Request → StateM σ Answer} {cache : Cache} {st : σ} {runner : Runner}
  {selection : Suite.Selection} {log : String}

/-- The tests of a run come to their end, and the result log then reads back as a text. -/
def Runner.ReadsBack (exec : Request → StateM σ Answer) (cache : Cache) (st : σ) (runner : Runner)
    (selection : Suite.Selection) (log : String) : Prop :=
  ∃ skipFile cache' st₁ output st₂,
    (runner.prepare selection.tests selection.skipTests).runOn exec cache st =
      ((.ok skipFile, cache'), st₁) ∧
    exec (runner.request selection.tests skipFile selection.drive) st₁ = (.ok output, st₂) ∧
    Runner.judgeText runner.run.resultLog
      (exec (Runner.textRequest runner.run.resultLog) st₂).1 = .ok log

/-- The records of a run are what its result log says. -/
theorem Runner.ReadsBack.runTests (h : runner.ReadsBack exec cache st selection log) :
    ∃ cache' st', (runner.runTests selection.tests selection.skipTests selection.drive).runOn exec
      cache st = (((Log.read runner.install.gitTag log).mapError .log, cache'), st') := by
  obtain ⟨skipFile, cache', st₁, output, st₂, hprepare, hexec, hread⟩ := h
  refine ⟨cache', (exec (textRequest runner.run.resultLog) st₂).2, ?_⟩
  rw [runOn_runTests, hprepare]
  simp only [hexec, judgeLog, hread]
  rfl

/-- **How the suite ends on a log**, if no notifier fails: with the names of the tests that failed, or
with the records. -/
theorem run_of_readsBack (hlog : Log.read runner.install.gitTag log = .ok records) {hub : Hub}
    (hhub : ∀ n ∈ hub, n.Unfailing) (h : runner.ReadsBack exec cache st selection log) :
    ∃ hub' cache' st', (Suite.run runner selection hub).run (Node.serve exec) cache st =
      (((hub', (Suite.checkFailures records).map fun _ => records), cache'), st') := by
  obtain ⟨cache', st', hrun⟩ := h.runTests
  rw [hlog] at hrun
  obtain ⟨hub', haccepts⟩ := Hub.exists_accepts hhub (Suite.messages records)
  refine ⟨hub', cache', st', ?_⟩
  rw [Suite.run, Node.run_serve_bind _ hrun]
  have hreport : Suite.report hub records =
      (hub', (Suite.checkFailures records).map fun _ => records) := by
    rw [Suite.report_eq, Hub.deliver_eq_of_accepts haccepts]
    rfl
  exact congrArg (fun reported => ((reported, cache'), st')) hreport

end

namespace CommandLine

open Host (Action)
open Script (Goes goes_bind_done goes_question)

variable {ω : Type} {answer : (action : Action) → StateM ω action.Reply} {w w₁ : ω} {env : Environment}
  {log : String}

/-- **A log at hand** that can be read is printed as a table. -/
theorem goes_parse {arguments : List String} {file version' : Option String} {path : String}
    {base : Settings} (hread : read arguments = .ok ⟨file, .parse path version' false⟩)
    (hload : (Settings.load file env).run answer w = (.ok base, w₁))
    (hfile : (answer (.read path) w₁).1 = .ok log)
    (hlog : Log.read (version'.getD base.install.gitTag) log = .ok records) :
    ∃ w', Goes answer (program arguments env) w
      (fileReads file ++ .read path :: (table (Suite.messages records)).map .print) .done w' := by
  have hgoes := @goes_load ω answer file env w
  obtain ⟨hloaded, hw₁⟩ := Prod.ext_iff.mp (hgoes.run.symm.trans hload)
  have hlook : Goes answer (Host.read path) w₁ [.read path] (.ok log) (answer (.read path) w₁).2 :=
    hfile ▸ goes_question (Action.read path) w₁
  have hcommand : Goes answer (parseLog path (version'.getD base.install.gitTag) false).run w₁
      ([.read path] ++ (table (Suite.messages records)).map .print) (.ok ())
      (after answer ((table (Suite.messages records)).map .print) (answer (.read path) w₁).2) :=
    goes_andThen (goes_attempt hlook) (goes_decided_andThen hlog (goes_always (goes_printAll _ _)))
  rw [← show after answer (fileReads file) w = w₁ from hw₁] at hcommand
  exact ⟨_, goes_program hread (goes_perform_of_ok hloaded hcommand)⟩

/-- **A log that a run has read** is shown as a table. -/
theorem tableLines_of_readsBack {s : Settings} {way : Transport}
    (hlog : Log.read s.install.gitTag log = .ok records)
    (h : (runner s).ReadsBack (node answer way) {} w (Suite.Selection.ofSettings s.suite) log) :
    tableLines answer s way w = table (Suite.messages records) := by
  obtain ⟨cache', w', hrun⟩ := h.runTests
  have htested : (tested answer s way w).1.1 = (Log.read s.install.gitTag log).mapError .log :=
    congrArg (·.1.1) hrun
  rw [tableLines, htested, hlog]
  rfl

end CommandLine

open CommandLine in
/-- **All tables of a log are the same**, and count what it reports. Let a log be read, in whatever
version. Then the table of its records is what is printed for the log at hand, in any version; it is
what is printed by a run that is not refused and whose result log reads back as the log, and what that
run writes to its result file, if one is wanted. It counts all lines of the log that report a test, none
of them as queued, and as failed as many as the suite names when it fails on the log; if it does not
fail, there is none. -/
theorem tables_agree {version log : String} (hlog : Log.read version log = .ok records) :
    let lines := table (Suite.messages records)
    (∀ (ω : Type) (answer : (action : Host.Action) → StateM ω action.Reply) (w w₁ : ω)
      (env : Environment) (arguments : List String) (file version' : Option String) (path : String)
      (base : Settings), read arguments = .ok ⟨file, .parse path version' false⟩ →
      (Settings.load file env).run answer w = (.ok base, w₁) → (answer (.read path) w₁).1 = .ok log →
      ∃ w', Script.Goes answer (program arguments env) w
        (fileReads file ++ .read path :: lines.map .print) .done w') ∧
    (∀ (ω : Type) (answer : (action : Host.Action) → StateM ω action.Reply) (w : ω)
      (env : Environment) (arguments : List String) (order : Order) (options : RunOptions)
      (s : Settings) (way : Transport), read arguments = .ok order → order.command = .run options →
      ¬order.Refused answer env w → order.settings? answer env w = some s →
      transport s options.target.here = .ok way →
      let looks := fileReads order.settingsFile ++ probes s.report.resultFile
      let ready := after answer looks w
      (runner s).ReadsBack (node answer way) {} ready (Suite.Selection.ofSettings s.suite) log →
      ∃ starts starts' outcome w', (∀ action ∈ starts ++ starts', action.Starts) ∧
        Script.Goes answer (program arguments env) w
          (looks ++ (starts ++ (lines.map .print ++ storing s.report.resultFile lines ++
            (starts' ++ ((stages answer s way ready).printed options.showOutput).map .print))))
          outcome w') ∧
    ∃ tests rows passed failed skipped, Log.Sifted Log.ReportsTest (Log.lines log) tests ∧
      lines = Report.rule :: rows ++ footer tests.length passed failed skipped ∧
      ∀ (σ : Type) (exec : Request → StateM σ Answer) (cache : Cache) (st : σ) (runner : Runner)
        (selection : Suite.Selection) (hub : Hub), (∀ n ∈ hub, n.Unfailing) →
        runner.ReadsBack exec cache st selection log → ∃ hub' outcome cache' st',
          (Suite.run runner selection hub).run (Node.serve exec) cache st =
            (((hub', outcome), cache'), st') ∧
          ((∃ names, outcome = .error (.testsFailed names) ∧ names.length = failed ∧ failed ≠ 0) ∨
            (∃ records, outcome = .ok records) ∧ failed = 0) := by
  intro lines
  refine ⟨?_, ?_, ?_⟩
  · intro ω answer w w₁ env arguments file version' path base hread hload hfile
    have hlog' := Log.read_relabel hlog (version'.getD base.install.gitTag)
    obtain ⟨w', hgoes⟩ := goes_parse hread hload hfile hlog'
    rw [table_relabel] at hgoes
    exact ⟨w', hgoes⟩
  · intro ω answer w env arguments order options s way hread hcommand h hs hway looks ready hback
    obtain ⟨starts, starts', w', hstarts, hgoes⟩ := goes_run hread hcommand h hs hway
    have hlines : tableLines answer s way ready = lines :=
      (tableLines_of_readsBack (Log.read_relabel hlog s.install.gitTag) hback).trans
        (table_relabel records s.install.gitTag)
    rw [show after answer (fileReads order.settingsFile ++ probes s.report.resultFile) w = ready
      from rfl, hlines] at hgoes
    exact ⟨starts, starts', _, w', hstarts, hgoes⟩
  · obtain ⟨architecture, -, hrecords⟩ := Log.exists_recorded hlog
    have htable := lines_table records (Log.isCompleted_of_read hlog)
    rw [← hrecords.length_eq] at htable
    refine ⟨Log.entries log, _, _, _, _, Log.sifted_entries.mpr rfl, htable, ?_⟩
    intro σ exec cache st runner selection hub hhub hback
    have hlog' := Log.read_relabel hlog runner.install.gitTag
    obtain ⟨hub', cache', st', hrun⟩ := run_of_readsBack hlog' hhub hback
    refine ⟨hub', _, cache', st', hrun, ?_⟩
    have hnames := failedNames_relabel records runner.install.gitTag
    rw [Suite.checkFailures, hnames]
    cases hfailed : failedNames records with
    | nil => exact .inr ⟨⟨_, rfl⟩, rfl⟩
    | cons name names => exact .inl ⟨_, rfl, rfl, Nat.succ_ne_zero _⟩

/-! ### A sample -/

/-- A log of two tests, one of which failed. -/
def mixedLog : String := "Machine Architecture: x86_64\nabs01 PASS 0\nbrk01 FAIL 1\n"

/-- The records of the log. -/
def mixedRecords : List Record :=
  [⟨"1.0", "x86_64", "abs01", .passed, 0⟩, ⟨"1.0", "x86_64", "brk01", .failed, 1⟩]

/-- A machine that holds the log. -/
def holder : Host.Sandbox := { directory := { entries := [(["log"], .file (some mixedLog))] } }

theorem readsBack_mixedLog :
    Runner.ReadsBack (Suite.teller ⟨{}, {}⟩ mixedLog) {} () ⟨{}, {}⟩ {} mixedLog :=
  have hprepared : ((Runner.prepare ⟨{}, {}⟩ Suite.liteTests []).runOn
      (Suite.teller ⟨{}, {}⟩ mixedLog) {} ()).1.1 = .ok none := by decide +kernel
  ⟨none, _, (), _, (), Prod.ext (Prod.ext hprepared rfl) rfl, rfl, by decide +kernel⟩

open CommandLine in
theorem tables_agree_mixed : Log.read "1.0" mixedLog = .ok mixedRecords ∧
    Runner.ReadsBack (Suite.teller ⟨{}, {}⟩ mixedLog) {} () ⟨{}, {}⟩ {} mixedLog ∧
    ∃ w', Script.Goes Host.Sandbox.perform (program ["parse", "/log"] bare) holder
      (.read "/log" :: (table (Suite.messages mixedRecords)).map .print) .done w' := by
  have hlog : Log.read "1.0" mixedLog = .ok mixedRecords := by decide +kernel
  have hread : read ["parse", "/log"] = .ok ⟨none, .parse "/log" none false⟩ := by decide +kernel
  have hfile : (Host.Sandbox.perform (.read "/log") holder).1 = .ok mixedLog := by decide +kernel
  obtain ⟨hparse, -, -⟩ := tables_agree hlog
  exact ⟨hlog, readsBack_mixedLog, hparse _ _ holder holder bare _ none none "/log" {} hread rfl hfile⟩

end Testbed

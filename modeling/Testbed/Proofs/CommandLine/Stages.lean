import Testbed.Proofs.CommandLine.Course
import Testbed.Proofs.Report.Table
import Testbed.Proofs.Run.Freshness
import Testbed.Proofs.Suite.Reporting

/-!
# The stages of a run

A run connects, sees to its notifiers, runs the tests, lets the notifiers finish and shows the output of
the tests. Each stage may fail, but whatever becomes of the tests, the table is printed.

* `reporters`: the notifiers of a run, with what they keep.
* `Stages`: what comes of the tests of a run, of its result file and of the output of the tests.

Results:
* `goes_finalize`: the end of the notifiers prints the table once, and then writes it.
* `goes_runSuite`, `goes_installSuite`: the course of a run and of an installation.
* `verdict_eq_ok_iff`: a run ends well just if all its stages do.
-/

namespace Testbed

open Host (Action)
open Report (Hub Message Notifier NotifierError table textOf)

/-! ## The records of a run -/

namespace Log

theorem isCompleted_of_recordedAs {version architecture : String} {tests : List Entry}
    {records : List Record} (h : List.Forall₂ (RecordedAs version architecture) tests records) :
    ∀ r ∈ records, r.status.isCompleted = true := by
  induction h with
  | nil => exact nofun
  | cons hr _ ih => exact List.forall_mem_cons.mpr ⟨Suite.isCompleted_of_writes hr.status, ih⟩

/-- What is read is what the lines of the log say. -/
theorem exists_recorded {version log : String} {records : List Record}
    (h : read version log = .ok records) :
    ∃ architecture, architectures log = [architecture] ∧
      List.Forall₂ (RecordedAs version architecture) (entries log) records := by
  obtain ⟨answer, hreads⟩ := exists_reads version (architectures log) (entries log)
  obtain rfl : .ok records = answer := h.symm.trans (read_of_reads hreads)
  generalize architectures log = as at hreads ⊢
  generalize entries log = es at hreads ⊢
  cases hreads with
  | records hrecords => exact ⟨_, rfl, hrecords⟩

/-- The records of a log tell of tests that have come to an end. -/
theorem isCompleted_of_read {version log : String} {records : List Record}
    (h : read version log = .ok records) : ∀ r ∈ records, r.status.isCompleted = true :=
  have ⟨_, _, hrecords⟩ := exists_recorded h
  isCompleted_of_recordedAs hrecords

end Log

theorem mapError_eq_ok_iff {ε δ α : Type} {wrap : ε → δ} {x : Except ε α} {a : α} :
    x.mapError wrap = .ok a ↔ x = .ok a := by
  cases x with
  | error e => exact iff_of_false nofun nofun
  | ok b => exact ⟨fun h => congrArg _ (Except.ok.inj h), fun h => congrArg _ (Except.ok.inj h)⟩

/-- The records of a run are what some log says. -/
theorem Runner.exists_log {σ : Type} {runner : Runner} {tests skipTests : List String}
    {drive : Option String} {exec : Request → StateM σ Answer} {cache : Cache} {st : σ}
    {records : List Record}
    (h : ((runner.runTests tests skipTests drive).runOn exec cache st).1.1 = .ok records) :
    ∃ log, Log.read runner.install.gitTag log = .ok records := by
  have hjudge : ∀ answer, runner.judgeLog answer = .ok records →
      ∃ log, Log.read runner.install.gitTag log = .ok records := by
    intro answer h
    rw [judgeLog] at h
    cases hlog : judgeText runner.run.resultLog answer with
    | error e =>
      rw [hlog] at h
      cases h
    | ok log =>
      rw [hlog] at h
      exact ⟨log, mapError_eq_ok_iff.mp h⟩
  rw [runOn_runTests] at h
  split at h
  · cases h
  · split at h
    · cases h
    · exact hjudge _ h

namespace CommandLine

open Script (Goes goes_bind goes_bind_done goes_done goes_question)

variable {ω : Type} {answer : (action : Action) → StateM ω action.Reply} {w : ω}

/-! ## The notifiers of a run -/

/-- The notifiers of a run, with the messages that they keep. -/
def reporters (file : Option String) (kept : List Message) : Hub :=
  .log :: .console kept :: (file.map (Notifier.text · kept)).toList

/-- The actions that write a result file: all at once, the lines with a line feed behind each. -/
def storing (file : Option String) (lines : List String) : List Action :=
  (file.map fun path => Action.write path (textOf lines)).toList

/-- What comes of writing a result file. -/
def stored (answer : (action : Action) → StateM ω action.Reply) (file : Option String)
    (lines : List String) (w : ω) : Except Host.FileFault Unit :=
  match file with
  | none => .ok ()
  | some path => (answer (.write path (textOf lines)) w).1

variable {file : Option String} {kept ms : List Message}

theorem deliver_reporters (h : ∀ m ∈ ms, m.isCompleted = true) :
    (reporters file kept).deliver ms = (reporters file (kept ++ ms), .ok ()) := by
  induction ms generalizing kept with
  | nil => rw [List.append_nil, Hub.deliver]
  | cons m ms ih =>
    obtain ⟨hm, hms⟩ := List.forall_mem_cons.mp h
    have hnotify : Hub.notify m (reporters file kept) = (reporters file (kept ++ [m]), .ok ()) := by
      cases file <;> simp [reporters, Hub.notify, Notifier.offer, Notifier.ended, hm]
    rw [Hub.deliver, hnotify, List.append_cons kept m ms]
    exact ih hms

theorem goes_finalize_cons {n : Notifier} {hub : Hub} {ops more : List Action} {w₁ w₂ : ω}
    {outcome : Except NotifierError Unit} (hn : Goes answer n.finalize w ops (.ok ()) w₁)
    (h : Goes answer hub.finalize w₁ more outcome w₂) :
    Goes answer (Hub.finalize (n :: hub)) w (ops ++ more) outcome w₂ := goes_bind hn h

theorem goes_store (file : Option String) (kept : List Message) (w : ω) :
    Goes answer (Hub.finalize (file.map (Notifier.text · kept)).toList) w (storing file (table kept))
      ((stored answer file (table kept) w).mapError fun fault => .io fault.message)
      (after answer (storing file (table kept)) w) := by
  cases file with
  | none => exact goes_done _ _
  | some path =>
    have hwrite : Goes answer (Notifier.finalize (.text path kept)) w
        [.write path (textOf (table kept))]
        ((answer (.write path (textOf (table kept))) w).1.mapError fun fault => .io fault.message)
        (answer (.write path (textOf (table kept))) w).2 := by
      rw [← Report.fileText_eq]
      exact goes_bind_done (goes_question (Action.write path _) w) rfl
    refine goes_bind_done hwrite ?_
    simp only [stored]
    cases (answer (.write path (textOf (table kept))) w).1 <;> rfl

/-- **The end of the notifiers** prints the table once, and then writes it to the result file. -/
theorem goes_finalize (file : Option String) (kept : List Message) (w : ω) :
    Goes answer (reporters file kept).finalize w
      ((table kept).map .print ++ storing file (table kept))
      ((stored answer file (table kept) (after answer ((table kept).map .print) w)).mapError fun fault =>
        .io fault.message)
      (after answer (storing file (table kept)) (after answer ((table kept).map .print) w)) := by
  have hprint : Goes answer (Notifier.finalize (.console kept)) w ((table kept).map .print) (.ok ())
      (after answer ((table kept).map .print) w) :=
    goes_bind_done (goes_printAll (table kept) w) rfl
  have hlog : Hub.finalize (reporters file kept) =
      Hub.finalize (.console kept :: (file.map (Notifier.text · kept)).toList) := rfl
  rw [hlog]
  exact goes_finalize_cons hprint (goes_store file kept _)

/-- The actions that look for the result file. -/
def probes (file : Option String) : List Action := (file.map Action.probe).toList

theorem goes_text? (path : String) (w : ω) :
    Goes answer (Notifier.text? path) w [.probe path]
      (if (answer (.probe path) w).1 then .error (.fileExists path) else .ok (.text path []))
      (answer (.probe path) w).2 := by
  refine goes_bind_done (goes_question (Action.probe path) w) ?_
  cases (answer (.probe path) w).1 <;> rfl

/-- A result file that is not there yet is written by the last notifier of a run. -/
theorem goes_openHub {s : Settings}
    (hfree : ∀ path, s.report.resultFile = some path → (answer (.probe path) w).1 = false) :
    Goes answer (openHub s).run w (probes s.report.resultFile)
      (.ok (reporters s.report.resultFile [])) (after answer (probes s.report.resultFile) w) := by
  rw [openHub]
  cases hfile : s.report.resultFile with
  | none => exact goes_done _ _
  | some path =>
    have hprobe := @goes_text? ω answer path w
    rw [hfree path hfile] at hprobe
    exact goes_bind_done (goes_attempt hprobe) rfl

/-- One that is there already is an end to the run. -/
theorem goes_openHub_of_exists {s : Settings} {path : String} (hfile : s.report.resultFile = some path)
    (hthere : (answer (.probe path) w).1 = true) :
    Goes answer (openHub s).run w [.probe path] (.error (.notifier (.fileExists path)))
      (answer (.probe path) w).2 := by
  have hprobe := @goes_text? ω answer path w
  rw [hthere] at hprobe
  rw [openHub, hfile]
  exact goes_failed (goes_attempt hprobe)

/-! ## The stages of a run -/

/-- What comes of the tests of a run, of its result file and of the output of the tests. -/
structure Stages where
  result : Except RunError (List Record)
  stored : Except Host.FileFault Unit
  output : Except RunError String

/-- The messages in the table of a run. -/
def shown : Except RunError (List Record) → List Message
  | .ok records => Suite.messages records
  | .error _ => []

/-- How the suite ends, from what comes of the tests. -/
def closing : Except RunError (List Record) → Except Suite.SuiteError (List Record)
  | .ok records => (Suite.checkFailures records).map fun _ => records
  | .error e => .error (.run e)

/-- The tests of a run, from a fresh memory of the node. -/
def tested (answer : (action : Action) → StateM ω action.Reply) (s : Settings) (way : Transport) (w : ω) :
    (Except RunError (List Record) × Cache) × ω :=
  let selection := Suite.Selection.ofSettings s.suite
  ((runner s).runTests selection.tests selection.skipTests selection.drive).runOn (node answer way) {} w

/-- The lines of the table of a run. -/
def tableLines (answer : (action : Action) → StateM ω action.Reply) (s : Settings) (way : Transport)
    (w : ω) : List String := table (shown (tested answer s way w).1.1)

/-- The stages of a run: the tests are run, the table is printed and written, and the output of the
tests is read. -/
def stages (answer : (action : Action) → StateM ω action.Reply) (s : Settings) (way : Transport) (w : ω) :
    Stages :=
  let lines := tableLines answer s way w
  let printed := after answer (lines.map .print) (tested answer s way w).2
  let written := after answer (storing s.report.resultFile lines) printed
  { result := (tested answer s way w).1.1
    stored := stored answer s.report.resultFile lines printed
    output := ((runner s).readOutputLog.runOn (node answer way) (tested answer s way w).1.2
      written).1.1 }

namespace Stages

/-- What is printed below the table: the output of the tests, if it is wanted. -/
def printed (stages : Stages) (showOutput : Bool) : List String :=
  match stages.stored with
  | .error _ => []
  | .ok () => if showOutput then stages.output.toOption.toList else []

/-- What the stages come to. -/
def verdict (stages : Stages) (showOutput : Bool) : Except Failure Unit := do
  stages.stored.mapError fun fault => .notifier (.io fault.message)
  if showOutput then
    let _ ← stages.output.mapError Failure.run
  let _ ← (closing stages.result).mapError Failure.suite

end Stages

/-- The suite reports what comes of the tests to all notifiers of the run. -/
theorem run_reporters {σ : Type} {exec : Request → StateM σ Answer} {runner : Runner}
    {selection : Suite.Selection} {result : Except RunError (List Record)} {cache cache' : Cache}
    {st st' : σ} (h : (runner.runTests selection.tests selection.skipTests selection.drive).runOn exec
      cache st = ((result, cache'), st')) :
    (Suite.run runner selection (reporters file [])).run (Node.serve exec) cache st =
      (((reporters file (shown result), closing result), cache'), st') := by
  rw [Suite.run, Node.run_serve_bind _ h]
  cases result with
  | error e => rfl
  | ok records =>
    obtain ⟨log, hlog⟩ := Runner.exists_log (congrArg (·.1.1) h)
    have hcompleted : ∀ m ∈ Suite.messages records, m.isCompleted = true := by
      intro m hm
      obtain ⟨r, hr, rfl⟩ := List.mem_map.mp hm
      exact Log.isCompleted_of_read hlog r hr
    have hreport : Suite.report (reporters file []) records =
        (reporters file (Suite.messages records), closing (.ok records)) := by
      rw [Suite.report, deliver_reporters hcompleted]
      rfl
    simp only [hreport]
    rfl

/-- What is left of a run after its notifiers: the output of the tests is printed, if it is wanted, and
then it is told how the suite ended. -/
theorem goes_output {s : Settings} {way : Transport} {cache cache' : Cache}
    {result : Except RunError (List Record)} {output : Except RunError String} {w' : ω}
    (houtput : (runner s).readOutputLog.runOn (node answer way) cache w = ((output, cache'), w')) :
    ∃ starts : List Action, (∀ action ∈ starts, action.Starts) ∧ ∃ w'',
      Goes answer (ExceptT.run do
        let (text, _) ← always ((carryOut way (runner s).readOutputLog.run).run cache)
        always (Host.print (← decided .run text))
        let _ ← decided .suite (closing result)) w (starts ++ output.toOption.toList.map .print)
        (output.mapError .run >>= fun _ => ((closing result).map fun _ => ()).mapError .suite) w'' := by
  obtain ⟨starts, hstarts, hread⟩ := @goes_carryOut ω _ answer way (runner s).readOutputLog.run cache w
  have hrun : (runner s).readOutputLog.run.run (Node.serve (node answer way)) cache w =
      ((output, cache'), w') := houtput
  rw [hrun] at hread
  refine ⟨starts, hstarts, ?_⟩
  cases output with
  | error e =>
    exact ⟨w', goes_andThen (goes_always hread) (goes_failed (goes_decided Failure.run (.error e) w'))⟩
  | ok text =>
    refine ⟨_, goes_andThen (goes_always hread) (goes_andThen
      (goes_decided Failure.run (.ok text) w') (goes_andThen (goes_always (goes_print text w'))
        (goes_bind_done (goes_decided Failure.suite (closing result) _) ?_)))⟩
    cases closing result <;> rfl

/-- **The course of a run** whose result file is not there yet. -/
theorem goes_runSuite {s : Settings} {here : Bool} {way : Transport} (hway : transport s here = .ok way)
    (hfree : ∀ path, s.report.resultFile = some path → (answer (.probe path) w).1 = false)
    (showOutput : Bool) :
    let w₁ := after answer (probes s.report.resultFile) w
    let lines := tableLines answer s way w₁
    ∃ starts starts' w', (∀ action ∈ starts ++ starts', action.Starts) ∧
      Goes answer (runSuite s here showOutput).run w
        (probes s.report.resultFile ++ (starts ++ (lines.map .print ++
          storing s.report.resultFile lines ++ (starts' ++
            ((stages answer s way w₁).printed showOutput).map .print))))
        ((stages answer s way w₁).verdict showOutput) w' := by
  intro w₁ lines
  have hopen : Goes answer (openHub s).run w _ _ w₁ := goes_openHub hfree
  obtain ⟨starts, hstarts, hrun⟩ := @goes_carryOut ω _ answer way (Suite.run (runner s)
    (Suite.Selection.ofSettings s.suite) (reporters s.report.resultFile [])) {} w₁
  simp only [lines, stages, tableLines]
  generalize htested : tested answer s way w₁ = t
  obtain ⟨⟨result, cache⟩, w₂⟩ := t
  rw [run_reporters htested] at hrun
  have hfinalize := @goes_finalize ω answer s.report.resultFile (shown result) w₂
  simp only
  generalize hw₃ : after answer (storing _ _) (after answer _ w₂) = w₃ at hfinalize
  cases hstored : stored answer s.report.resultFile (table (shown result))
    (after answer ((table (shown result)).map .print) w₂) with
  | error fault =>
    rw [hstored] at hfinalize
    refine ⟨starts, [], w₃, List.forall_mem_append.mpr ⟨hstarts, nofun⟩, ?_⟩
    refine goes_decided_andThen hway (goes_andThen hopen (goes_andThen (goes_always hrun) ?_))
    rw [Stages.printed, List.map_nil, List.append_nil, List.append_nil]
    exact goes_failed (goes_attempt hfinalize)
  | ok =>
    rw [hstored] at hfinalize
    cases showOutput with
    | false =>
      refine ⟨starts, [], w₃, List.forall_mem_append.mpr ⟨hstarts, nofun⟩, ?_⟩
      refine goes_decided_andThen hway (goes_andThen hopen (goes_andThen (goes_always hrun) ?_))
      refine goes_andThen (goes_attempt hfinalize) ?_
      refine goes_bind_done (goes_decided Failure.suite (closing result) w₃) ?_
      simp only [Stages.verdict]
      cases closing result <;> rfl
    | true =>
      generalize houtput : (runner s).readOutputLog.runOn (node answer way) cache w₃ = read
      obtain ⟨⟨output, cache'⟩, w₄⟩ := read
      obtain ⟨starts', hstarts', w₅, hshow⟩ := goes_output houtput
      refine ⟨starts, starts', w₅, List.forall_mem_append.mpr ⟨hstarts, hstarts'⟩, ?_⟩
      refine goes_decided_andThen hway (goes_andThen hopen (goes_andThen (goes_always hrun) ?_))
      have hverdict : Stages.verdict ⟨result, .ok (), output⟩ true = (output.mapError Failure.run >>=
          fun _ => ((closing result).map fun _ => ()).mapError Failure.suite) := by
        simp only [Stages.verdict]
        cases output <;> cases closing result <;> rfl
      rw [hverdict]
      exact goes_andThen (goes_attempt hfinalize) hshow

theorem checkFailures_eq_ok_iff {records : List Record} :
    Suite.checkFailures records = .ok () ↔ ∀ r ∈ records, r.status ≠ .failed := by
  have hnames : (failedNames records).isEmpty = true ↔ ∀ r ∈ records, r.status ≠ .failed := by
    rw [List.isEmpty_iff, failedNames, List.map_eq_nil_iff, List.filter_eq_nil_iff]
    simp only [decide_eq_true_eq, ne_eq]
  rw [Suite.checkFailures, ← hnames]
  cases (failedNames records).isEmpty with
  | true => exact iff_of_true rfl rfl
  | false =>
    refine iff_of_false (fun h => ?_) Bool.false_ne_true
    cases h

/-- The suite ends well just if there are records, and none of a test that failed. -/
theorem exists_closing_iff {result : Except RunError (List Record)} :
    (∃ records, closing result = .ok records) ↔
      ∃ records, result = .ok records ∧ ∀ r ∈ records, r.status ≠ .failed := by
  cases result with
  | error e => exact iff_of_false nofun nofun
  | ok records =>
    have hcheck : (∃ found, closing (.ok records) = .ok found) ↔
        Suite.checkFailures records = .ok () := by
      rw [closing]
      cases Suite.checkFailures records with
      | error e => exact iff_of_false nofun nofun
      | ok => exact iff_of_true ⟨records, rfl⟩ rfl
    rw [hcheck, checkFailures_eq_ok_iff]
    exact ⟨fun h => ⟨records, rfl, h⟩, fun ⟨_, heq, h⟩ => (Except.ok.inj heq) ▸ h⟩

/-- **All stages of a run that ends well have ended well**: there are records, and none of a test that
failed, the result file is written, and the output of the tests is read, if it is wanted. -/
theorem Stages.verdict_eq_ok_iff {stages : Stages} {showOutput : Bool} :
    stages.verdict showOutput = .ok () ↔
      (∃ records, stages.result = .ok records ∧ ∀ r ∈ records, r.status ≠ .failed) ∧
      stages.stored = .ok () ∧ (showOutput = true → ∃ text, stages.output = .ok text) := by
  rw [← exists_closing_iff, Stages.verdict]
  cases stages.stored with
  | error fault => exact iff_of_false nofun fun h => nomatch h.2.1
  | ok =>
    cases closing stages.result with
    | error e =>
      refine iff_of_false ?_ fun h => nomatch h.1
      cases showOutput <;> cases stages.output <;> exact nofun
    | ok records =>
      cases showOutput with
      | false => exact iff_of_true rfl ⟨⟨records, rfl⟩, rfl, nofun⟩
      | true =>
        cases stages.output with
        | error e => exact iff_of_false nofun fun h => nomatch h.2.2 rfl
        | ok text => exact iff_of_true rfl ⟨⟨records, rfl⟩, rfl, fun _ => ⟨text, rfl⟩⟩

/-! ## An installation -/

/-- **The course of an installation.** -/
theorem goes_installSuite {s : Settings} {here : Bool} {way : Transport}
    (hway : transport s here = .ok way) (w : ω) :
    let result := ((runner s).ensureInstalled.runOn (node answer way) {} w).1.1
    ∃ starts w', (∀ action ∈ starts, action.Starts) ∧
      Goes answer (installSuite s here).run w
        (starts ++ result.toOption.toList.map fun _ =>
          .print ("LTP is installed at " ++ s.install.binaryPath))
        (result.mapError .run) w' := by
  intro result
  obtain ⟨starts, hstarts, hrun⟩ := @goes_carryOut ω _ answer way (runner s).ensureInstalled.run {} w
  generalize hresult : (runner s).ensureInstalled.run.run (Node.serve (node answer way)) {} w = t at hrun
  have hresult' : result = t.1.1 := congrArg (·.1.1) hresult
  rw [hresult']
  obtain ⟨⟨outcome, cache⟩, w₁⟩ := t
  cases outcome with
  | error e =>
    exact ⟨starts, w₁, hstarts, goes_decided_andThen hway (goes_andThen (goes_always hrun)
      (goes_failed (goes_decided Failure.run (.error e) w₁)))⟩
  | ok =>
    exact ⟨starts, _, hstarts, goes_decided_andThen hway (goes_andThen (goes_always hrun)
      (goes_andThen (goes_decided Failure.run (.ok ()) w₁) (goes_always (goes_print _ w₁))))⟩

end CommandLine

end Testbed

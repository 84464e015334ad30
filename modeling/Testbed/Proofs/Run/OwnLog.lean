import Testbed.Proofs.Node.FileStore
import Testbed.Proofs.Run.Freshness
import Testbed.Proofs.Run.Program
import Testbed.Proofs.Run.StaleFiles

/-!
# Whose log a run reads

A run removes the result log, runs the tests and reads the result log. Whether the tests write it is
decided by their arguments: the log files are named there, unless a drive takes their place.

* `logFile?`: the file that the arguments of the tests name for the log.
* `Tester`: the program that runs the tests. It writes a log to the file that is named, if one is, and
  to no other file.
* `Machine.with`: a machine on which the tester stands at a path.
* `readied`: the files when the tests start.

Results:
* `logFile?_testWords`: which file is named.
* `runOn_runTests_with`: the answer of a run is what the result log says when the tests have ended.

Headline: **`runTests_reads_own_log`**: a run reads the log that its own tests have written, if the log
files are named; `replaced_log` is a run that tests a drive, has no log written, and finds none.
-/

namespace Testbed

open Node (Machine Store change)
open Shell (isOrdinary quote understood)

/-! ## The tester -/

/-- The file that arguments name for the log: the operand of `-l`. Of the other options, all but two
have an operand as well. -/
def logFile? : List String → Option String
  | flag :: operand :: rest =>
    if flag = "-l" then some operand
    else if flag = "-p" ∨ flag = "-q" then logFile? (operand :: rest)
    else logFile? rest
  | _ => none

/-- The program that runs tests: the log that it writes, and what it ends with, by its arguments and
the files that it finds. -/
structure Tester where
  log : List String → Store → String
  output : List String → Store → Output

/-- What comes of a run of the tests: a fresh log in the file that is named, if one is, and nothing
else. -/
def Tester.run (tester : Tester) (words : List String) (store : Store) : Output × Store :=
  (tester.output words store,
    match logFile? words with
    | some path => store.put path (some (tester.log words store))
    | none => store)

/-- A machine on which a tester stands at a path. -/
def Node.Machine.with (m : Machine) (path : String) (tester : Tester) : Machine :=
  { m with program := fun line store =>
      match understood true line with
      | some (⟨name :: words, []⟩, none) =>
        if name = path then tester.run words store else m.program line store
      | _ => m.program line store }

namespace Runner

variable {runner : Runner} {tests skipTests : List String} {drive : Option String} {m : Machine}
  {tester : Tester} {cache : Cache} {store : Store}

/-- The file that the tests are told to write their log to. -/
theorem logFile?_testWords (runner : Runner) (tests skipTests : List String) (drive : Option String) :
    logFile? (testWords runner tests skipTests drive) =
      if drive.isSome ∧ runner.run.drivePolicy = .replace then none
      else some runner.run.resultLog := by
  have hlog : ∀ resultLog outputLog more,
      logFile? (Run.Mode.logFlags resultLog outputLog ++ more) = some resultLog := by
    intro resultLog outputLog more
    simp [Run.Mode.logFlags, logFile?]
  have hskip : logFile? (["-f", String.intercalate "," tests] ++
      if skipTests.isEmpty then [] else ["-S", runner.run.skipFile]) = none := by
    split <;> simp [logFile?]
  rw [testWords, List.append_assoc]
  cases drive with
  | none => exact hlog _ _ _
  | some device =>
    cases hpolicy : runner.run.drivePolicy with
    | replace =>
      have hmode : Run.Mode.select runner.run (some device) = .drive device := by
        simp only [Run.Mode.select, hpolicy]
      rw [hmode]
      simpa [Run.Mode.flags, logFile?] using hskip
    | additive =>
      have hmode : Run.Mode.select runner.run (some device) =
          .loggedDrive runner.run.resultLog runner.run.outputLog device := by
        simp only [Run.Mode.select, hpolicy]
      rw [hmode, Run.Mode.flags, List.append_assoc, hlog]
      simp

/-! ## The run -/

/-- The files when the tests start: what an earlier run left behind is removed, and the tests to skip
are written. -/
def readied (runner : Runner) (skipTests : List String) (store : Store) : Store :=
  let removed := ((store.put runner.run.skipFile none).put runner.run.resultLog none).put
    runner.run.outputLog none
  match Run.skipContent? skipTests with
  | none => removed
  | some content => removed.put runner.run.skipFile (some content)

theorem runOn_perform {command : String} {elevated : Bool}
    (h : (m.act (change command elevated) store).1.exitCode = 0) :
    (Node.perform command elevated).runOn m.reliable cache store =
      ((.ok (), cache), (m.act (change command elevated) store).2) := by
  have hchecked : Plan.checked (change command elevated)
      (m.reliable (change command elevated) store).1 =
        .ok (m.act (change command elevated) store).1 := Plan.checked_of_exitCode h
  rw [Node.perform, Plan.executeChecked_eq, Node.runOn_turn_bind rfl]
  simp only [hchecked]
  rfl

theorem runOn_removeFile (path : String) :
    (onNode (Node.removeFile path true)).runOn m.reliable cache store =
      ((.ok (), cache), store.put path none) := by
  refine Node.runOn_adapt_ok ?_
  rw [Node.removeFile, runOn_perform (by rw [Node.act_remove]), Node.act_remove]

theorem runOn_writeSkipFile : (runner.writeSkipFile skipTests).runOn m.reliable cache store =
    ((.ok ((Run.skipContent? skipTests).map fun _ => runner.run.skipFile), cache),
      match Run.skipContent? skipTests with
      | none => store
      | some content => store.put runner.run.skipFile (some content)) := by
  rw [writeSkipFile]
  cases Run.skipContent? skipTests with
  | none => rfl
  | some content =>
    have hwrite : (Node.writeFile runner.run.skipFile content true).runOn m.reliable cache store =
        ((.ok (), cache), store.put runner.run.skipFile (some content)) := by
      rw [Node.writeFile, runOn_perform (by rw [Node.act_write]), Node.act_write]
    exact Node.runOn_bind_ok (Node.runOn_adapt_ok hwrite)

theorem runOn_removeStaleFiles : runner.removeStaleFiles.runOn m.reliable cache store =
    ((.ok (), cache), ((store.put runner.run.skipFile none).put runner.run.resultLog none).put
      runner.run.outputLog none) := by
  simp only [removeStaleFiles, staleFiles, List.forM]
  rw [Node.runOn_bind_ok (runOn_removeFile _), Node.runOn_bind_ok (runOn_removeFile _),
    Node.runOn_bind_ok (runOn_removeFile _)]
  rfl

/-- The suite is installed, so all of its installation is passed over. -/
theorem runOn_ensureInstalled (h : (store runner.install.binaryPath).isSome) :
    runner.ensureInstalled.runOn m.reliable cache store = ((.ok (), cache), store) := by
  have hlook : (Install.isInstalled runner.install).runOn m.reliable cache store =
      ((.ok true, cache), store) := by
    refine Node.runOn_adapt_ok ?_
    rw [Plan.isPresent_eq, Node.runOn_turn, Node.serve_of_forced rfl]
    simp only [Machine.reliable, Node.act_look, if_pos h]
    rfl
  refine Node.runOn_adapt_ok ?_
  rw [Node.runOn_bind_ok hlook]
  rfl

/-- **Before the tests are run** the files are made ready for them. -/
theorem runOn_prepare (htests : tests ≠ []) (h : (store runner.install.binaryPath).isSome) :
    (runner.prepare tests skipTests).runOn m.reliable cache store =
      ((.ok ((Run.skipContent? skipTests).map fun _ => runner.run.skipFile), cache),
        runner.readied skipTests store) := by
  have hempty : tests.isEmpty = false := List.isEmpty_eq_false_iff.mpr htests
  rw [prepare, hempty]
  show (runner.ensureInstalled >>= fun _ => runner.removeStaleFiles >>= fun _ =>
    runner.writeSkipFile skipTests).runOn m.reliable cache store = _
  rw [Node.runOn_bind_ok (runOn_ensureInstalled h), Node.runOn_bind_ok runOn_removeStaleFiles,
    runOn_writeSkipFile]
  rfl

/-- The command that runs the tests is the one that the plan of a run tells of. -/
theorem request_eq_testRequest (runner : Runner) (tests skipTests : List String)
    (drive : Option String) :
    runner.request tests ((Run.skipContent? skipTests).map fun _ => runner.run.skipFile) drive =
      testRequest runner tests skipTests drive := by
  rw [request, command, Run.arguments, Run.argumentVector, testRequest, testWords, Run.skipContent?]
  cases skipTests.isEmpty <;> rfl

theorem act_testRequest (hstarts : StartsProgram runner tests skipTests drive)
    (hhead : runner.install.binaryPath.toList.head? = some '/') :
    (m.with runner.install.binaryPath tester).act (testRequest runner tests skipTests drive) store =
      tester.run (testWords runner tests skipTests drive) store := by
  have hline : understood (testRequest runner tests skipTests drive).elevated
      (testRequest runner tests skipTests drive).line =
        some (⟨runner.install.binaryPath :: testWords runner tests skipTests drive, []⟩, none) :=
    hstarts
  rw [Node.act_program hline hhead]
  simp only [Machine.with]
  rw [show understood true _ = _ from hstarts]
  exact if_pos rfl

/-- What the result log comes to when it is read. -/
def readBack (runner : Runner) (m : Machine) (store : Store) : Except RunError (List Record) :=
  match store runner.run.resultLog with
  | some log => (Log.read runner.install.gitTag log).mapError .log
  | none => .error (.node (.commandFailed ("cat " ++ quote runner.run.resultLog) 1
      (Text.trimmed (m.complaint runner.run.resultLog))))

theorem judgeLog_reliable :
    runner.judgeLog (m.reliable (textRequest runner.run.resultLog) store).1 = runner.readBack m store := by
  rw [Machine.reliable, textRequest, Node.act_read, readBack]
  cases store runner.run.resultLog <;> rfl

theorem reliable_textRequest {path : String} : (m.reliable (textRequest path) store).2 = store := by
  rw [Machine.reliable, textRequest, Node.act_read]
  cases store path <;> rfl

/-- **A run** of the tests reads the result log as they have left it behind. -/
theorem runOn_runTests_with (htests : tests ≠ []) (h : (store runner.install.binaryPath).isSome)
    (hstarts : StartsProgram runner tests skipTests drive)
    (hhead : runner.install.binaryPath.toList.head? = some '/') :
    (runner.runTests tests skipTests drive).runOn
        (m.with runner.install.binaryPath tester).reliable cache store =
      ((runner.readBack m (tester.run (testWords runner tests skipTests drive)
          (runner.readied skipTests store)).2, cache),
        (tester.run (testWords runner tests skipTests drive) (runner.readied skipTests store)).2) := by
  rw [runOn_runTests, runOn_prepare htests h]
  simp only
  rw [request_eq_testRequest, Machine.reliable, act_testRequest hstarts hhead]
  simp only
  rw [judgeLog_reliable, reliable_textRequest]
  rfl

/-- When the tests start, the result log is not there, unless it is the skip file. -/
theorem readied_resultLog (h : runner.run.skipFile ≠ runner.run.resultLog ∨ skipTests = []) :
    runner.readied skipTests store runner.run.resultLog = none := by
  have hremoved : (((store.put runner.run.skipFile none).put runner.run.resultLog none).put
      runner.run.outputLog none) runner.run.resultLog = none := by
    simp [Store.put]
  rcases h with h | rfl
  · rw [readied]
    cases Run.skipContent? skipTests with
    | none => exact hremoved
    | some content => exact (if_neg h.symm).trans hremoved
  · exact hremoved

/-- The tests write the log that they are told to. -/
theorem run_of_logFile? {words : List String} {path : String} (h : logFile? words = some path) :
    (tester.run words store).2 path = some (tester.log words store) := by
  rw [Tester.run, h]
  exact if_pos rfl

/-- **Whose log a run reads**: for all valid settings with a path of ordinary characters, on a node
where the suite is installed and nothing fails. Without a drive, or with a drive that is added to the
log files, the tests are told to write the result log, and the answer is what this log of theirs says.
A drive that takes the place of the log files has the tests write no log; the run then finds no log,
unless the skip file has its name. -/
theorem runTests_reads_own_log (settings : Settings) (hvalid : settings.fault? = none)
    (hpath : ∀ c ∈ settings.install.binaryPath.toList, isOrdinary c = true)
    (tests skipTests : List String) (htests : tests ≠ []) (drive : Option String) (m : Machine)
    (tester : Tester) (cache : Cache) (store : Store)
    (hinstalled : (store settings.install.binaryPath).isSome) :
    let runner : Runner := ⟨settings.run, settings.install⟩
    let words := testWords runner tests skipTests drive
    let started := runner.readied skipTests store
    ∃ answer, (runner.runTests tests skipTests drive).runOn
        (m.with settings.install.binaryPath tester).reliable cache store =
          ((answer, cache), (tester.run words started).2) ∧
      (drive = none ∨ settings.run.drivePolicy = .additive →
        logFile? words = some settings.run.resultLog ∧
        answer = (Log.read settings.install.gitTag (tester.log words started)).mapError .log) ∧
      (drive ≠ none → settings.run.drivePolicy = .replace →
        logFile? words = none ∧ answer = runner.readBack m started ∧
        (settings.run.skipFile ≠ settings.run.resultLog ∨ skipTests = [] →
          answer = .error (.node (.commandFailed ("cat " ++ quote settings.run.resultLog) 1
            (Text.trimmed (m.complaint settings.run.resultLog)))))) := by
  intro runner words started
  have hinstall := Settings.fault?_install hvalid
  have hstarts : StartsProgram runner tests skipTests drive := startsProgram_of_ordinary hinstall hpath
  have hhead := Install.Settings.head?_binaryPath hinstall
  have hlog := logFile?_testWords runner tests skipTests drive
  refine ⟨_, runOn_runTests_with htests hinstalled hstarts hhead, fun htold => ?_,
    fun hdrive hpolicy => ?_⟩
  · have htold : logFile? words = some runner.run.resultLog := by
      rw [hlog, if_neg]
      rintro ⟨hdrive, hpolicy⟩
      rcases htold with rfl | hadditive
      · cases hdrive
      · cases hadditive.symm.trans hpolicy
    refine ⟨htold, ?_⟩
    rw [readBack, run_of_logFile? htold]
  · have huntold : logFile? words = none := by
      rw [hlog, if_pos ⟨Option.isSome_iff_ne_none.mpr hdrive, hpolicy⟩]
    have hnothing : (tester.run words started).2 = started := by
      rw [Tester.run, huntold]
    refine ⟨huntold, ?_, fun hskip => ?_⟩
    · rw [hnothing]
    · have hmissing : started runner.run.resultLog = none := @readied_resultLog runner _ store hskip
      rw [hnothing, readBack, hmissing]

/-- A machine that does nothing but what the known commands do. -/
def idle : Machine where
  program _ store := (⟨0, "", ""⟩, store)
  complaint path := "cat: " ++ path ++ ": No such file or directory\n"

/-- Tests of which one passes. -/
def passing : Tester where
  log _ _ := "Machine Architecture: x86_64\nabs01 PASS 0\n"
  output _ _ := ⟨0, "", ""⟩

/-- Settings with which a drive is added to the log files. -/
def additiveSettings : Settings := { run := { drivePolicy := .additive } }

theorem reads_own_log_additive : additiveSettings.fault? = none ∧
    (installed none additiveSettings.install.binaryPath).isSome ∧
    ((runTests ⟨additiveSettings.run, additiveSettings.install⟩ ["abs01"] [] (some "/dev/sdc")).runOn
      (idle.with additiveSettings.install.binaryPath passing).reliable {} (installed none)).1.1 =
        .ok [⟨"20190930", "x86_64", "abs01", .passed, 0⟩] := by
  have hvalid : additiveSettings.fault? = none := by decide +kernel
  have hpath : additiveSettings.install.binaryPath.toList.all isOrdinary = true := by decide +kernel
  have hinstalled : (installed none additiveSettings.install.binaryPath).isSome := by decide +kernel
  have hread : (Log.read "20190930" "Machine Architecture: x86_64\nabs01 PASS 0\n").mapError
      RunError.log = .ok [⟨"20190930", "x86_64", "abs01", .passed, 0⟩] := by decide +kernel
  obtain ⟨answer, hrun, htold, -⟩ := runTests_reads_own_log additiveSettings hvalid
    (List.all_eq_true.mp hpath) ["abs01"] [] (by decide) (some "/dev/sdc") idle passing {}
    (installed none) hinstalled
  refine ⟨hvalid, hinstalled, ?_⟩
  rw [hrun]
  exact (htold (Or.inr rfl)).2.trans hread

/-- With the default settings, a drive takes the place of the log files: the tests, which would write a
good log, are told of none, and the run finds none. -/
theorem replaced_log : ({} : Settings).fault? = none ∧
    (installed none ({} : Install.Settings).binaryPath).isSome ∧
    logFile? (testWords ⟨{}, {}⟩ ["abs01"] [] (some "/dev/sdc")) = none ∧
    (Log.read "20190930" (passing.log (testWords ⟨{}, {}⟩ ["abs01"] [] (some "/dev/sdc"))
        (readied ⟨{}, {}⟩ [] (installed none)))).mapError RunError.log =
      .ok [⟨"20190930", "x86_64", "abs01", .passed, 0⟩] ∧
    ((runTests ⟨{}, {}⟩ ["abs01"] [] (some "/dev/sdc")).runOn
      (idle.with ({} : Install.Settings).binaryPath passing).reliable {} (installed none)).1.1 =
        .error (.node (.commandFailed "cat /opt/ltp/ltp-results.log" 1
          "cat: /opt/ltp/ltp-results.log: No such file or directory")) := by
  have hinstall : ({} : Install.Settings).fault? = none := by decide +kernel
  have hpath : ({} : Install.Settings).binaryPath.toList.all isOrdinary = true := by decide +kernel
  have hinstalled : (installed none ({} : Install.Settings).binaryPath).isSome := by decide +kernel
  have hrun := @runOn_runTests_with ⟨{}, {}⟩ ["abs01"] [] (some "/dev/sdc") idle passing {}
    (installed none) (by decide) hinstalled
    (startsProgram_of_ordinary hinstall (List.all_eq_true.mp hpath))
    (Install.Settings.head?_binaryPath hinstall)
  refine ⟨by decide +kernel, hinstalled, by decide +kernel, by decide +kernel, ?_⟩
  rw [hrun]
  decide +kernel

end Runner

end Testbed

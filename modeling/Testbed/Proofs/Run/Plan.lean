import Testbed.Proofs.Install.Following
import Testbed.Run.Runner

/-!
# The plan of a run of tests

`plan` lists all that is asked of a node for a run of tests: the plan of an installation is a part of
it, which is passed over where the suite is installed.

* `runTests_eq`: a run of tests is the script of its plan.

Headline: **`runTests_follows`**: on any node, whatever it remembers and answers, a run of tests
follows the plan, and the outcome of the plan is its answer.
-/

namespace Testbed.Runner

open Node (Conversation Exchange change serving)
open Plan (Item Follows must note probe script tolerate)

/-- What is known in a run of tests. -/
structure Facts where
  /-- Whether the suite is missing, and what is known from installing it. -/
  absent : Bool := false
  install : Install.Facts := {}
  records : List Record := []

/-- An item of the plan. -/
abbrev Entry := Item Facts RunError

variable {runner : Runner} {facts : Facts} {rest : List Entry} {tests skipTests : List String}
  {drive : Option String}

/-! ## The plan -/

/-- A look whether the suite is installed. -/
def lookEntry (runner : Runner) : Entry :=
  .always fun facts => probe (fun e => .install (.node e)) runner.install.binaryPath true
    fun present => .ok { facts with absent := !present }

/-- The plan of an installation, where the suite is missing. -/
def installPlan (runner : Runner) : List Entry :=
  (Install.plan runner.install).map
    (.within (·.absent) (·.install) (fun facts part => { facts with install := part }) .install)

/-- Removing a file. -/
def removeEntry (path : String) : Entry :=
  .always (must .node (change ("rm -f " ++ Shell.quote path) true))

/-- What an earlier run left behind. -/
def stalePlan (runner : Runner) : List Entry :=
  [removeEntry runner.run.skipFile, removeEntry runner.run.resultLog,
    removeEntry runner.run.outputLog]

/-- Writing the tests to skip, one a line, if there are any. -/
def skipEntry (runner : Runner) (skipTests : List String) : Entry :=
  .onlyIf (fun _ => !skipTests.isEmpty) (.always (must .node
    (change ("printf '%s' " ++ Shell.quote (String.intercalate "\n" skipTests) ++ " > " ++
      Shell.quote runner.run.skipFile) true)))

/-- The words of the command that runs the tests. The skip file is named just if it is written. -/
def testWords (runner : Runner) (tests skipTests : List String) (drive : Option String) :
    List String :=
  (Run.Mode.select runner.run drive).flags ++ ["-f", String.intercalate "," tests] ++
    if skipTests.isEmpty then [] else ["-S", runner.run.skipFile]

/-- The request that runs the tests. -/
def testRequest (runner : Runner) (tests skipTests : List String) (drive : Option String) :
    Request where
  command := runner.install.binaryPath ++ " " ++
    String.intercalate " " ((testWords runner tests skipTests drive).map Shell.quote)
  elevated := true
  forced := true
  timeoutMs := some (runner.run.runTimeoutSecs * 1000)

/-- Running the tests. -/
def testEntry (runner : Runner) (tests skipTests : List String) (drive : Option String) : Entry :=
  .always (tolerate .node (testRequest runner tests skipTests drive))

/-- The request for the result log. -/
def logRequest (runner : Runner) : Request where
  command := "cat " ++ Shell.quote runner.run.resultLog
  elevated := true
  forced := true

/-- Reading the result log. -/
def logEntry (runner : Runner) : Entry :=
  .always fun facts => note .node (logRequest runner) fun log =>
    ((Log.read runner.install.gitTag log).mapError .log).map fun records =>
      { facts with records := records }

/-- All that is done before the log is read. -/
def works (runner : Runner) (tests skipTests : List String) (drive : Option String) : List Entry :=
  lookEntry runner :: (installPlan runner ++ (stalePlan runner ++
    [skipEntry runner skipTests, testEntry runner tests skipTests drive]))

/-- **The plan of a run of tests**: the works, and the log. -/
def plan (runner : Runner) (tests skipTests : List String) (drive : Option String) : List Entry :=
  works runner tests skipTests drive ++ [logEntry runner]

theorem plan_eq (runner : Runner) (tests skipTests : List String) (drive : Option String) :
    plan runner tests skipTests drive = lookEntry runner :: (installPlan runner ++
      (stalePlan runner ++ [skipEntry runner skipTests, testEntry runner tests skipTests drive,
        logEntry runner])) := by
  simp only [plan, works, List.cons_append, List.append_assoc, List.nil_append]

/-! ## The parts of a run -/

variable {α : Type} {k : Facts → Step α} {K : Step α}

theorem script_lookEntry : script (lookEntry runner :: rest) facts =
    ExceptT.adapt RunError.install (Install.isInstalled runner.install) >>= fun present =>
      script rest { facts with absent := !present } := by
  rw [Plan.script_cons_probe rfl, Install.isInstalled, Install.onNode, Plan.adapt_adapt]
  rfl

/-- What is asked for an installation; what is done afterwards must not depend on it. -/
theorem script_installPlan (h : facts.install = {}) (hrest : ∀ facts, script rest facts >>= k = K) :
    script (installPlan runner ++ rest) facts >>= k =
      (if facts.absent then ExceptT.adapt .install (Install.install runner.install)
        else pure ()) >>= fun _ => K := by
  have hwithin : script (installPlan runner) facts =
      if facts.absent then (fun part => { facts with install := part }) <$>
        ExceptT.adapt .install (script (Install.plan runner.install) facts.install)
      else pure facts := by
    refine Plan.script_within ?_ ?_ ?_ ?_ (Install.plan runner.install) facts
    · exact fun _ _ => rfl
    · exact fun _ _ => rfl
    · exact fun _ _ _ => rfl
    · exact fun _ => rfl
  rw [Plan.script_append, hwithin, bind_assoc]
  by_cases ha : facts.absent = true
  · rw [if_pos ha, if_pos ha, bind_map_left, h, Install.install_eq, map_eq_pure_bind,
      Plan.adapt_bind, bind_assoc]
    simp only [hrest]
    rfl
  · rw [if_neg ha, if_neg ha, pure_bind, pure_bind, hrest]

theorem script_stalePlan : script (stalePlan runner ++ rest) facts =
    runner.removeStaleFiles >>= fun _ => script rest facts := by
  have hremove : ∀ path rest, script (removeEntry path :: rest) facts =
      onNode (Node.removeFile path true) >>= fun _ => script rest facts :=
    fun _ _ => Plan.script_cons_perform rfl
  exact Plan.script_map_append hremove runner.staleFiles

/-- The tests to skip are written and named in the command, or neither. -/
theorem script_skipEntry :
    script (skipEntry runner skipTests :: testEntry runner tests skipTests drive :: rest) facts =
      runner.writeSkipFile skipTests >>= fun skipFile =>
        onNode (Node.execute (runner.request tests skipFile drive)) >>= fun _ =>
          script rest facts := by
  have htest : script (testEntry runner tests skipTests drive :: rest) facts =
      onNode (Node.execute (testRequest runner tests skipTests drive)) >>= fun _ =>
        script rest facts := Plan.script_cons_tolerate rfl
  rw [writeSkipFile, Run.skipContent?]
  cases h : skipTests.isEmpty with
  | true =>
    have hentry : skipEntry runner skipTests facts = none :=
      Item.onlyIf_of_false (by rw [h]; rfl)
    rw [Plan.script_cons_none hentry, htest, if_pos rfl, testRequest, testWords, if_pos h]
    rfl
  | false =>
    have hentry : skipEntry runner skipTests facts = some _ :=
      Item.onlyIf_of_true (by rw [h]; rfl)
    rw [Plan.script_cons_perform hentry, htest, if_neg Bool.false_ne_true, testRequest, testWords,
      if_neg (by rw [h]; exact Bool.false_ne_true)]
    simp only [bind_assoc, pure_bind]
    rfl

theorem script_logEntry :
    (script [logEntry runner] facts >>= fun f => pure f.records) = runner.parseResults := by
  rw [Plan.script_cons_readText rfl, parseResults, bind_assoc]
  refine congrArg _ (funext fun log => ?_)
  rw [Plan.mk_map_bind, bind_assoc]
  exact bind_pure _

/-- **A run of tests is its plan**, unless there are no tests. -/
theorem runTests_eq (h : tests.isEmpty = false) : runner.runTests tests skipTests drive =
    (·.records) <$> script (plan runner tests skipTests drive) {} := by
  have hlast : ∀ facts, (script (stalePlan runner ++ [skipEntry runner skipTests,
      testEntry runner tests skipTests drive, logEntry runner]) facts >>= fun f => pure f.records) =
      runner.removeStaleFiles >>= fun _ => runner.writeSkipFile skipTests >>= fun skipFile =>
        onNode (Node.execute (runner.request tests skipFile drive)) >>= fun _ =>
          runner.parseResults := by
    intro facts
    rw [script_stalePlan, script_skipEntry]
    simp only [bind_assoc, script_logEntry]
  rw [map_eq_pure_bind, plan_eq, script_lookEntry, bind_assoc, runTests,
    if_neg (by rw [h]; exact Bool.false_ne_true), ensureInstalled, Plan.adapt_bind]
  show (_ >>= _) >>= (fun _ => _) = _
  rw [bind_assoc]
  refine congrArg _ (funext fun present => ?_)
  rw [script_installPlan rfl hlast]
  cases present <;> rfl

/-! ## Where the suite is installed -/

/-- The plan of an installation is passed over where the suite is not missing. -/
theorem within_eq_none (h : facts.absent = false) :
    ∀ item ∈ installPlan runner, item facts = none := by
  intro item hitem
  obtain ⟨part, -, rfl⟩ := List.mem_map.mp hitem
  exact if_neg (Bool.eq_false_iff.mp h)

theorem smooth_works (runner : Runner) (tests skipTests : List String) (drive : Option String) :
    ∀ item ∈ works runner tests skipTests drive, item.Smooth {} := by
  have hlook : (lookEntry runner).Smooth {} := by
    rintro turn ⟨⟩
    refine ⟨rfl, fun output h => ?_⟩
    have hpresent : Plan.probed runner.install.binaryPath (.ok output) = .ok true :=
      Plan.probed_eq_true_iff.mpr ⟨output, rfl, h⟩
    exact Plan.judge_of_eq_ok_iff.mpr ⟨true, hpresent, rfl⟩
  have hremove : ∀ path, (removeEntry path).Smooth {} := fun _ => Plan.smooth_must rfl
  simp only [works, stalePlan, List.forall_mem_cons, List.forall_mem_append]
  exact ⟨hlook, fun item hitem => Plan.smooth_of_none (within_eq_none rfl item hitem),
    ⟨hremove _, hremove _, hremove _, by simp⟩, Plan.smooth_onlyIf (Plan.smooth_must rfl),
    Plan.smooth_tolerate rfl, by simp⟩

/-- The last that is asked before the log are the tests. -/
theorem asked_works (runner : Runner) (tests skipTests : List String) (drive : Option String) :
    ∃ before, Plan.asked (works runner tests skipTests drive) {} =
      before ++ [testRequest runner tests skipTests drive] := by
  have hworks : works runner tests skipTests drive = (lookEntry runner :: (installPlan runner ++
      (stalePlan runner ++ [skipEntry runner skipTests]))) ++
        [testEntry runner tests skipTests drive] := by
    simp only [works, List.cons_append, List.append_assoc, List.nil_append]
  exact ⟨_, (congrArg (Plan.asked · {}) hworks).trans List.filterMap_append⟩

/-! ## Following the plan -/

/-- **A run of tests follows its plan**: on any node, what is asked of it follows the plan, up to the
first failure, and the answer is what the plan comes to. Without tests nothing is asked. -/
theorem runTests_follows {σ : Type} (runner : Runner) (tests skipTests : List String)
    (drive : Option String) (exec : Request → StateM σ Answer) (cache : Cache) (st : σ) :
    match tests with
    | [] => (runner.runTests [] skipTests drive).runOn exec cache st =
        ((.error (.invalidArgument "ltp tests cannot be empty"), cache), st)
    | _ => ∃ t outcome cache' st', (runner.runTests tests skipTests drive).runOn exec cache st =
          ((outcome.map (·.records), cache'), st') ∧
        Conversation (serving exec) (cache, st) t (cache', st') ∧
        Follows (plan runner tests skipTests drive) {} t outcome := by
  cases tests with
  | nil => rfl
  | cons first more =>
    generalize hrun : (runner.runTests (first :: more) skipTests drive).runOn exec cache st = result
    obtain ⟨⟨answer, cache'⟩, st'⟩ := result
    obtain ⟨t, hplays, hconversation⟩ := Node.runOn_eq_iff.mp hrun
    rw [runTests_eq rfl, Plan.plays_map_script_iff] at hplays
    obtain ⟨outcome, hfollows, rfl⟩ := hplays
    exact ⟨t, outcome, cache', st', rfl, hconversation, hfollows⟩

end Testbed.Runner

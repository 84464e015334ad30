import Testbed.Proofs.Record.Layout
import Testbed.Proofs.Report.Delivery
import Testbed.Proofs.Run.Plan
import Testbed.Suite.Run

/-!
# A run of the suite reports what the log says

From the node to the notifiers: the log that a run of tests leaves behind is read, its records are
reported, and the run fails just if one of them tells of a failure.

* `Cooperates`: a world in which the suite is installed, all commands end well, and the tests leave a
  log behind.

Headline: **`run_reports`**: whichever the layout of the log, every notifier is offered what the
outcomes in it are, in order, before the run comes to its end.
-/

namespace Testbed.Suite

open Log (Layout Outcome)
open Node (Conversation Exchange serving)
open Plan (Follows asked)
open Report (Hub Message Notifier)

variable {σ : Type} {exec : Request → StateM σ Answer} {st st' : σ} {runner : Runner}
  {selection : Selection} {log : String} {cache : Cache}

/-- The world behind a node lets all commands end well, whatever was asked of it before. What it tells
of the result log after the tests is `log`. -/
structure Cooperates (exec : Request → StateM σ Answer) (st : σ) (runner : Runner)
    (selection : Selection) (log : String) : Prop where
  succeeds : ∀ t st₁ r, Conversation exec st t st₁ →
    ∃ output, (exec r st₁).1 = .ok output ∧ output.exitCode = 0
  tells : ∀ t answer st₁ output,
    Conversation exec st (t ++ [(runner.testRequest selection.tests selection.skipTests
      selection.drive, answer)]) st₁ →
    (exec runner.logRequest st₁).1 = .ok output → output.stdout = log

/-! ## The run of the tests -/

/-- What is forced reaches the world behind the node, and ends well. -/
theorem Cooperates.serving_succeeds (h : Cooperates exec st runner selection log) {t : List Exchange}
    {r : Request} {cache₁ : Cache} {st₁ : σ}
    (hc : Conversation (serving exec) (cache, st) t (cache₁, st₁))
    (hforced : ∀ r' ∈ t.map (·.1) ++ [r], r'.forced = true) :
    Conversation exec st t st₁ ∧ ∃ output, (serving exec r (cache₁, st₁)).1 = .ok output ∧
      (exec r st₁).1 = .ok output ∧ output.exitCode = 0 := by
  have hexec : Conversation exec st t st₁ := hc.of_forced fun x hx =>
    hforced x.1 (List.mem_append_left _ (List.mem_map_of_mem hx))
  have hr : r.forced = true := hforced r (List.mem_append_right _ List.mem_cons_self)
  obtain ⟨_, hserving, -⟩ := Node.serving_of_new exec cache₁ st₁ (Or.inl hr)
  obtain ⟨output, houtput, hexit⟩ := h.succeeds t st₁ r hexec
  rw [hserving]
  exact ⟨hexec, output, houtput, houtput, hexit⟩

/-- The result log follows the works of a run, and makes its records. -/
theorem Cooperates.follows_log (h : Cooperates exec st runner selection log) {t : List Exchange}
    {v : List Exchange} {cache₁ cache' : Cache} {st₁ : σ} {outcome : Except RunError Runner.Facts}
    {records : List Record} (hlog : Log.read runner.install.gitTag log = .ok records)
    (hc : Conversation (serving exec) (cache, st) t (cache₁, st₁))
    (ht : t.map (·.1) = asked
      (runner.works selection.tests selection.skipTests selection.drive) {})
    (hv : Conversation (serving exec) (cache₁, st₁) v (cache', st'))
    (hf : Follows [runner.logEntry] {} v outcome) : outcome = .ok { records := records } := by
  have hforced : ∀ r ∈ t.map (·.1) ++ [runner.logRequest], r.forced = true := by
    intro r hr
    rw [ht] at hr
    rcases List.mem_append.mp hr with hr | hr
    · exact Plan.forced_of_mem_asked (Runner.smooth_works _ _ _ _) r hr
    · rw [List.mem_singleton.mp hr]
      rfl
  obtain ⟨hexec, output, hserving, houtput, hexit⟩ := h.serving_succeeds hc hforced
  obtain ⟨before, hbefore⟩ := Runner.asked_works runner selection.tests selection.skipTests
    selection.drive
  obtain ⟨u, x, rfl, -, hx⟩ := List.map_eq_append_iff.mp (ht.trans hbefore)
  obtain ⟨⟨_, answer⟩, rfl, rfl⟩ := List.map_eq_singleton_iff.mp hx
  have hstdout : output.stdout = log := h.tells u answer st₁ output hexec houtput
  have hread : ((Log.read runner.install.gitTag output.stdout).mapError RunError.log).map
      (fun records => ({ records := records } : Runner.Facts)) = .ok { records := records } := by
    rw [hstdout, hlog]
    rfl
  obtain ⟨answer', w, rfl, hw⟩ := (Plan.follows_cons_some rfl).mp hf
  cases hv with
  | cons hy _ =>
    have hy' : (serving exec runner.logRequest (cache₁, st₁)).1 = answer' := congrArg Prod.fst hy
    obtain rfl : answer' = .ok output := hy'.symm.trans hserving
    have hjudge : (Plan.note RunError.node runner.logRequest fun log =>
        ((Log.read runner.install.gitTag log).mapError RunError.log).map
          fun records => ({ records := records } : Runner.Facts)).judge (.ok output) =
            .ok { records := records } :=
      Plan.judge_of_eq_ok_iff.mpr ⟨output, Plan.checked_of_exitCode hexit, hread⟩
    rcases hw with ⟨e, he, -⟩ | ⟨facts, hfacts, hlast⟩
    · cases hjudge.symm.trans he
    · obtain rfl := Except.ok.inj (hjudge.symm.trans hfacts)
      cases hlast
      rfl

/-- Where all commands end well, the answer to a run of tests is what the log says. -/
theorem Cooperates.runTests_eq {records : List Record}
    (h : Cooperates exec st runner selection log) (htests : selection.tests ≠ [])
    (hlog : Log.read runner.install.gitTag log = .ok records) (cache : Cache) :
    ∃ cache' st', (runner.runTests selection.tests selection.skipTests selection.drive).runOn exec
      cache st = ((.ok records, cache'), st') := by
  generalize hrun : (runner.runTests _ _ _).runOn exec cache st = result
  obtain ⟨⟨answer, cache'⟩, st'⟩ := result
  refine ⟨cache', st', ?_⟩
  obtain ⟨t, hplays, hc⟩ := Node.runOn_eq_iff.mp hrun
  rw [Runner.runTests_eq (List.isEmpty_eq_false_iff.mpr htests), Plan.plays_map_script_iff] at hplays
  obtain ⟨outcome, hf, rfl⟩ := hplays
  have hsmooth := Runner.smooth_works runner selection.tests selection.skipTests selection.drive
  obtain ⟨u, v, ⟨cache₁, st₁⟩, hu, hmap, hv, hlast⟩ := Follows.of_smooth hsmooth
    (fun u r ⟨cache₁, st₁⟩ hu hstart => by
      obtain ⟨-, output, houtput, -, hexit⟩ := h.serving_succeeds hu fun r' hr' =>
        Plan.forced_of_mem_asked hsmooth r' (hstart.subset hr')
      exact ⟨output, houtput, hexit⟩) hf hc
  rw [h.follows_log hlog hu hmap hv hlast]
  rfl

/-! ## What is reported -/

/-- What is reported of an outcome. -/
def reportOf (version architecture : String) (o : Outcome) : Message where
  name := o.name
  suite := "LtpTestsuite"
  status := o.status
  information := [("architecture", architecture), ("exit_value", toString o.exitValue.toInt),
    ("version", version)]

/-- What is reported of the outcomes in a log. -/
def reports (version : String) (d : Layout) : List Message :=
  d.outcomes.map (reportOf version d.architecture)

/-- The names of the tests that failed, in the order of the log. -/
def failures (d : Layout) : List String := (d.outcomes.filter (·.status = .failed)).map (·.name)

theorem isCompleted_of_writes {s : Status} {code : String} (h : Log.Writes s code) :
    s.isCompleted = true := by
  cases h <;> rfl

theorem isCompleted_of_mem_reports {version : String} {d : Layout} :
    ∀ m ∈ reports version d, m.isCompleted = true := by
  intro m hm
  obtain ⟨o, -, rfl⟩ := List.mem_map.mp hm
  exact isCompleted_of_writes o.writes

theorem messages_record (version : String) (d : Layout) :
    messages (d.outcomes.map (·.record version d.architecture)) = reports version d := by
  rw [messages, List.map_map]
  rfl

theorem checkFailures_record (version : String) (d : Layout) :
    checkFailures (d.outcomes.map (·.record version d.architecture)) =
      if failures d = [] then .ok () else .error (.testsFailed (failures d)) := by
  have hnames : failedNames (d.outcomes.map (·.record version d.architecture)) = failures d := by
    rw [failedNames, List.filter_map, List.map_map]
    rfl
  rw [checkFailures, hnames]
  cases failures d <;> rfl

/-- **A run of the suite reports what the log says.** Where the suite is installed and all commands end
well, and whichever way the outcomes of the tests are written down in the log, each notifier accepts a
message about each of the outcomes, in order, and no other message. The run then ends with the
records, or with the names of the tests that failed. -/
theorem run_reports (runner : Runner) (selection : Selection) (d : Layout) (htests : selection.tests ≠ [])
    (hworld : Cooperates exec st runner selection d.text) (hub : Hub)
    (hhub : ∀ n ∈ hub, n.Unfailing) (cache : Cache) :
    ∃ hub' cache' st', (run runner selection hub).run (Node.serve exec) cache st =
        (((hub', if failures d = []
          then .ok (d.outcomes.map (·.record runner.install.gitTag d.architecture))
          else .error (.testsFailed (failures d))), cache'), st') ∧
      List.Forall₂ (fun n n' => n.Accepts (reports runner.install.gitTag d) n' ∧
        (n ≠ .log → n'.kept = n.kept ++ reports runner.install.gitTag d)) hub hub' ∧
      ∀ m ∈ reports runner.install.gitTag d, m.isCompleted = true := by
  obtain ⟨cache', st', hrun⟩ := hworld.runTests_eq htests (Log.read_text runner.install.gitTag d) cache
  obtain ⟨hub', hub_accepts⟩ := Hub.exists_accepts hhub (reports runner.install.gitTag d)
  refine ⟨hub', cache', st', ?_, hub_accepts.imp fun n n' h =>
    ⟨h, fun hn => h.kept_eq hn isCompleted_of_mem_reports⟩, isCompleted_of_mem_reports⟩
  have hreport : report hub (d.outcomes.map (·.record runner.install.gitTag d.architecture)) =
      (hub', if failures d = []
        then .ok (d.outcomes.map (·.record runner.install.gitTag d.architecture))
        else .error (.testsFailed (failures d))) := by
    rw [report, messages_record, Hub.deliver_eq_of_accepts hub_accepts]
    simp only [checkFailures_record]
    split <;> rfl
  rw [run, Node.run_serve_bind _ hrun, ← hreport]
  rfl

/-! ### A sample -/

/-- No gap, and a gap of one space. -/
def noGap : Log.Gap := ⟨[], by decide⟩
def oneSpace : Log.Space := ⟨[' '], by decide⟩

/-- A log of two tests, one of which failed, with ends of both kinds and an empty line. -/
def sampleLayout : Layout where
  architecture := "x86_64"
  nonempty := by decide
  trimmed := by decide
  oneLine := by decide
  lead := noGap
  gap := ⟨oneSpace.text, oneSpace.some.2⟩
  trail := noGap
  crlf := true
  above := [⟨.test ⟨"math01", .passed, 0, "PASS", by decide, .pass⟩
    noGap oneSpace oneSpace noGap, false⟩]
  below := [⟨.noise [] (by decide) Log.not_namesArchitecture_nil Log.not_reportsTest_nil, false⟩,
    ⟨.test ⟨"fsx02", .failed, -1, "FAIL", by decide, .fail⟩
      noGap oneSpace oneSpace noGap, true⟩]
  ended := true

/-- A world that tells `log` of the result log, and nothing else. -/
def teller (runner : Runner) (log : String) : Request → StateM Unit Answer := fun r =>
  pure (.ok { exitCode := 0, stdout := if r = runner.logRequest then log else "" })

theorem cooperates_teller (runner : Runner) (selection : Selection) (log : String) :
    Cooperates (teller runner log) () runner selection log where
  succeeds _ _ _ _ := ⟨_, rfl, rfl⟩
  tells _ _ _ output _ houtput := by
    cases houtput
    exact if_pos rfl

theorem run_reports_sample : ∃ hub' cache' st',
    (run ⟨{}, {}⟩ {} [.collect [], .log]).run (Node.serve (teller ⟨{}, {}⟩ sampleLayout.text)) {} () =
      (((hub', .error (.testsFailed ["fsx02"])), cache'), st') := by
  have hub_unfailing : ∀ n ∈ ([.collect [], .log] : Hub), n.Unfailing := by
    intro n hn
    refine Notifier.unfailing_of_ne_recorder fun name temper kept => ?_
    rintro rfl
    simp at hn
  obtain ⟨hub', cache', st', h, -⟩ := run_reports ⟨{}, {}⟩ {} sampleLayout (by decide)
    (cooperates_teller _ _ _) [.collect [], .log] hub_unfailing {}
  exact ⟨hub', cache', st', h⟩

end Testbed.Suite

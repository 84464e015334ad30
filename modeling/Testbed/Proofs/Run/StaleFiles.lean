import Testbed.Proofs.Node.FileStore
import Testbed.Proofs.Run.Plan

/-!
# What an earlier run left behind

Two runs of tests that start from files which differ in nothing but what an earlier run may have left
behind cannot be told apart: they go in step, and once these files are removed there is no difference
between them.

* `World.Near files n w w'`: after `n` requests, two worlds differ in some files only.
* `InStep past x x'`: two runs that have come to the same, and to the same files if they got past a
  point.
* `GotPast`: a run that has asked for something after the removals.

Results:
* `inStep_turn`: runs that go in step for a turn go in step if they do so afterwards.
* `near_execute`: a request is answered alike in two worlds, if it is done to both alike.
* `inStep_removals`: each removal takes a file off those in which the worlds differ, and with none left
  they are one world.

Headline: **`runTests_ignores_stale`**.
-/

namespace Testbed

namespace Node

open Store (AgreeBut)

variable {F α ε : Type} {hidden files : List String} {n : Nat} {w w' : World} {m : Machine}
  {schedule : Schedule} {r : Request} {past : List Exchange → Prop}

/-- Two worlds that have been asked and have answered the same, `n` requests so far, and whose files
differ in nothing but some. -/
structure World.Near (files : List String) (n : Nat) (w w' : World) : Prop where
  store : AgreeBut files w.store w'.store
  log : w.log = w'.log
  length : w.log.length = n

/-- Two runs that have come to the same: they were answered the same, asked the same, and left the same
files if they got past some point. -/
structure InStep (past : List Exchange → Prop) (x x' : α × World) : Prop where
  answer : x.1 = x'.1
  log : x.2.log = x'.2.log
  store : past x.2.log → x.2.store = x'.2.store

theorem InStep.refl (x : α × World) : InStep past x x := ⟨rfl, rfl, fun _ => rfl⟩

/-- Worlds that differ in no file are the same. -/
theorem World.Near.eq (h : World.Near [] n w w') : w = w' := by
  obtain ⟨store, log⟩ := w
  obtain ⟨store', _⟩ := w'
  obtain ⟨hstore, rfl, -⟩ := h
  exact congrArg (World.mk · log) hstore.eq

/-! ## One request -/

/-- **A request is answered alike** in worlds that are near. They stay near if it fails; and if it does
not, what is done to their files decides. -/
theorem near_execute {files' : List String} (h : World.Near files n w w') (hhidden : files ⊆ hidden)
    (hact : (m.act r w.store).1 = (m.act r w'.store).1)
    (hstore : AgreeBut files' (m.act r w.store).2 (m.act r w'.store).2) :
    (m.execute hidden schedule r w).1 = (m.execute hidden schedule r w').1 ∧
      ((∃ failure : Failure, (m.execute hidden schedule r w).1 = failure.answer ∧
          World.Near files (n + 1) (m.execute hidden schedule r w).2
            (m.execute hidden schedule r w').2) ∨
        (m.execute hidden schedule r w).1 = .ok (m.act r w.store).1 ∧
          World.Near files' (n + 1) (m.execute hidden schedule r w).2
            (m.execute hidden schedule r w').2) := by
  have hlength : ∀ answer, (w.log ++ [(r, answer)]).length = n + 1 := by
    intro answer
    rw [List.length_append, h.length]
    rfl
  have hschedule : schedule w'.log (w'.store.without hidden) r =
      schedule w.log (w.store.without hidden) r := by
    rw [h.log, h.store.without hhidden]
  cases hw : schedule w.log (w.store.without hidden) r with
  | some failure =>
    rw [execute_of_failure hw, execute_of_failure (hschedule.trans hw), ← h.log]
    exact ⟨rfl, Or.inl ⟨failure, rfl, h.store, rfl, hlength _⟩⟩
  | none =>
    rw [execute_of_none hw, execute_of_none (hschedule.trans hw), ← h.log, ← hact]
    exact ⟨rfl, Or.inr ⟨rfl, hstore, rfl, hlength _⟩⟩

/-! ## Turns -/

variable {turn : Plan.Turn F ε} {f : F → NodeScript ε α} {exec : Request → StateM World Answer}
  {cache : Cache}

/-- **Two runs go in step for a turn** that is answered alike, and then as they go afterwards. If the
turn fails, the runs end before they get past the point. -/
theorem inStep_turn (hforced : turn.request.forced = true)
    (hanswer : (exec turn.request w).1 = (exec turn.request w').1)
    (hnear : World.Near files n (exec turn.request w).2 (exec turn.request w').2)
    (hpast : ∀ log, past log → n < log.length)
    (hnext : ∀ facts, turn.judge (exec turn.request w).1 = .ok facts →
      InStep past ((f facts).runOn exec cache (exec turn.request w).2)
        ((f facts).runOn exec cache (exec turn.request w').2)) :
    InStep past ((turn.script >>= f).runOn exec cache w)
      ((turn.script >>= f).runOn exec cache w') := by
  rw [runOn_turn_bind hforced, runOn_turn_bind hforced, ← hanswer]
  cases hjudge : turn.judge (exec turn.request w).1 with
  | ok facts => exact hnext facts hjudge
  | error e =>
    refine ⟨rfl, hnear.log, fun h => ?_⟩
    have hlength := hpast _ h
    rw [hnear.length] at hlength
    exact absurd hlength (Nat.lt_irrefl n)

/-- Two runs go in step for a probe of a file that is there in both worlds: it is found, unless the
probe fails. -/
theorem inStep_probe {wrap : NodeError → ε} {path : String} {elevated : Bool}
    {tell : Bool → Except ε F} (h : World.Near files n w w') (hhidden : files ⊆ hidden)
    (hw : (w.store path).isSome) (hw' : (w'.store path).isSome)
    (hpast : ∀ log, past log → n + 1 < log.length)
    (hnext : ∀ facts w₁ w₁', tell true = .ok facts → World.Near files (n + 1) w₁ w₁' →
      InStep past ((f facts).runOn (m.execute hidden schedule) cache w₁)
        ((f facts).runOn (m.execute hidden schedule) cache w₁')) :
    InStep past
      (((Plan.probe wrap path elevated tell).script >>= f).runOn (m.execute hidden schedule) cache w)
      (((Plan.probe wrap path elevated tell).script >>= f).runOn (m.execute hidden schedule) cache
        w') := by
  have hlook : ∀ w : World, (w.store path).isSome →
      m.act (Plan.probeRequest path elevated) w.store = (⟨0, "", ""⟩, w.store) := by
    intro w hw
    rw [act_look, if_pos hw]
  have hact : (m.act (Plan.probeRequest path elevated) w.store).1 =
      (m.act (Plan.probeRequest path elevated) w'.store).1 := by rw [hlook w hw, hlook w' hw']
  have hstore : AgreeBut files (m.act (Plan.probeRequest path elevated) w.store).2
      (m.act (Plan.probeRequest path elevated) w'.store).2 := by
    rw [hlook w hw, hlook w' hw']
    exact h.store
  obtain ⟨hanswer, ⟨failure, hfailure, hnear⟩ | ⟨hok, hnear⟩⟩ := near_execute h hhidden hact hstore
  · refine inStep_turn rfl hanswer hnear hpast fun facts hjudge => ?_
    obtain ⟨present, hprobed : Plan.probed path _ = _, -⟩ := Plan.judge_of_eq_ok_iff.mp hjudge
    exact absurd (hfailure ▸ hprobed) probed_failure_ne_ok
  · refine inStep_turn rfl hanswer hnear hpast fun facts hjudge => ?_
    obtain ⟨present, hprobed : Plan.probed path _ = _, htell⟩ := Plan.judge_of_eq_ok_iff.mp hjudge
    have hfound : Plan.probed path (.ok ⟨0, "", ""⟩) = .ok true :=
      Plan.probed_eq_true_iff.mpr ⟨_, rfl, rfl⟩
    rw [hlook w hw] at hok
    obtain rfl : present = true := Except.ok.inj ((hok ▸ hprobed).symm.trans hfound)
    exact hnext facts _ _ htell hnear

end Node

namespace Runner

open Node.Store (AgreeBut)
open Node (Exchange InStep Machine Schedule Store World inStep_probe inStep_turn near_execute)
open Plan (script)

variable {runner : Runner} {facts : Facts} {rest : List Entry} {k : Facts → Step α}
  {files hidden : List String} {n : Nat} {w w' : World} {m : Machine} {schedule : Schedule}
  {past : List Exchange → Prop} {cache : Cache}

/-- The request that removes a file. -/
def removal (path : String) : Request := Node.change ("rm -f " ++ Shell.quote path) true

/-- A run that has asked for something after the removals. -/
def GotPast (runner : Runner) (log : List Exchange) : Prop :=
  ∃ r, Plan.probeRequest runner.install.binaryPath true :: runner.staleFiles.map removal ++ [r] <+:
    log.map (·.1)

/-- **Removals in step**: each takes a file off those in which the worlds differ. If none is left, they
are one world, and the runs are one run. -/
theorem inStep_removals (hnear : World.Near files n w w') (hhidden : files ⊆ hidden)
    (hpast : ∀ log, past log → n + files.length < log.length) :
    InStep past
      ((script (files.map removeEntry ++ rest) facts >>= k).runOn (m.execute hidden schedule) cache w)
      ((script (files.map removeEntry ++ rest) facts >>= k).runOn (m.execute hidden schedule) cache
        w') := by
  induction files generalizing n w w' facts with
  | nil =>
    obtain rfl := hnear.eq
    exact .refl _
  | cons path files ih =>
    obtain ⟨-, hfiles⟩ := List.cons_subset.mp hhidden
    have hentry : removeEntry path facts = some (Plan.must .node (removal path) facts) := rfl
    have hact : (m.act (removal path) w.store).1 = (m.act (removal path) w'.store).1 := by
      rw [removal, Node.act_remove, Node.act_remove]
    have hstore : AgreeBut files (m.act (removal path) w.store).2
        (m.act (removal path) w'.store).2 := by
      rw [removal, Node.act_remove, Node.act_remove]
      exact hnear.store.put none
    have hlater : ∀ log, past log → n + 1 + files.length < log.length := fun log hlog => by
      have hlength := hpast log hlog
      rw [List.length_cons] at hlength
      omega
    have hfirst : ∀ log, past log → n + 1 < log.length := fun log hlog =>
      Nat.lt_of_le_of_lt (Nat.le_add_right _ _) (hlater log hlog)
    rw [List.map_cons, List.cons_append, Plan.script_cons_some hentry, bind_assoc]
    obtain ⟨hanswer, ⟨failure, hfailure, hnear⟩ | ⟨-, hnear⟩⟩ :=
      near_execute hnear hhidden hact hstore
    · -- A removal without effect never ends well, so the runs end here.
      refine inStep_turn rfl hanswer hnear hfirst fun facts' hjudge => ?_
      obtain ⟨output, hchecked : Plan.checked (removal path) _ = _, -⟩ :=
        Plan.judge_of_eq_ok_iff.mp hjudge
      exact absurd (hfailure ▸ hchecked) Node.checked_failure_ne_ok
    · exact inStep_turn rfl hanswer hnear hfirst fun facts' _ => ih hnear hfiles hlater

/-- A run that got past the removals has asked for more than these and the probe. -/
theorem GotPast.length {log : List Exchange} (h : GotPast runner log) : 4 < log.length := by
  obtain ⟨r, hprefix⟩ := h
  have hle := hprefix.length_le
  simp [staleFiles] at hle
  omega

/-- **What an earlier run left behind makes no difference**: two runs of the same tests, on nodes that
hold the program and differ in nothing but the skip file and the logs, are answered the same and ask
the same; and if they get past the removals, they leave the same files. Commands may fail, and the
program may do anything. -/
theorem runTests_ignores_stale (runner : Runner) (tests skipTests : List String)
    (drive : Option String) (m : Machine) (schedule : Schedule) (cache : Cache) (store store' : Store)
    (hstore : (store runner.install.binaryPath).isSome)
    (hstore' : (store' runner.install.binaryPath).isSome)
    (hagree : AgreeBut runner.staleFiles store store') :
    InStep (GotPast runner)
      ((runner.runTests tests skipTests drive).runOn (m.execute runner.staleFiles schedule) cache
        ⟨store, []⟩)
      ((runner.runTests tests skipTests drive).runOn (m.execute runner.staleFiles schedule) cache
        ⟨store', []⟩) := by
  have hpast : ∀ log, GotPast runner log → 1 + runner.staleFiles.length < log.length :=
    fun _ h => h.length
  cases tests with
  | nil => exact ⟨rfl, rfl, fun h => absurd h.length nofun⟩
  | cons first more =>
    generalize htests : first :: more = tests
    have hentry : lookEntry runner {} = some (Plan.probe (fun e => .install (.node e))
      runner.install.binaryPath true fun present => .ok { ({} : Facts) with absent := !present }) := rfl
    have hnear : World.Near runner.staleFiles 0 ⟨store, []⟩ ⟨store', []⟩ := ⟨hagree, rfl, rfl⟩
    rw [runTests_eq (htests ▸ rfl), map_eq_pure_bind, plan_eq, Plan.script_cons_some hentry, bind_assoc]
    refine inStep_probe hnear (List.Subset.refl _) hstore hstore'
      (fun log h => (by decide : 1 < 4).trans h.length) ?_
    rintro facts w w' ⟨⟩ hnear
    -- The suite was found, so all of its installation is passed over.
    have hstale : stalePlan runner = runner.staleFiles.map removeEntry := rfl
    rw [Plan.script_append_none (within_eq_none rfl), hstale]
    exact inStep_removals hnear (List.Subset.refl _) hpast

/-- A node whose programs write a log of one test that passed. -/
def scribe : Machine where
  program _ store := (⟨0, "", ""⟩, store.put "/opt/ltp/ltp-results.log"
    (some "Machine Architecture: x86_64\nabs01 PASS 0\n"))
  complaint path := "cat: " ++ path ++ ": No such file or directory"

/-- The files of a node where the suite is installed, and the log of an earlier run if there is one. -/
def installed (log : Option String) : Store := fun path =>
  if path = "/opt/ltp/ltp-results.log" then log
  else if path = "/opt/ltp/runltp" then some "" else none

theorem ignores_old_log :
    (installed none "/opt/ltp/runltp").isSome ∧
    (installed (some "old01 FAIL 1\n") "/opt/ltp/runltp").isSome ∧
    AgreeBut (staleFiles ⟨{}, {}⟩) (installed none) (installed (some "old01 FAIL 1\n")) ∧
    InStep (GotPast ⟨{}, {}⟩)
      ((runTests ⟨{}, {}⟩ ["abs01"] [] none).runOn
        (scribe.execute (staleFiles ⟨{}, {}⟩) fun _ _ _ => none) {} ⟨installed none, []⟩)
      ((runTests ⟨{}, {}⟩ ["abs01"] [] none).runOn
        (scribe.execute (staleFiles ⟨{}, {}⟩) fun _ _ _ => none) {}
        ⟨installed (some "old01 FAIL 1\n"), []⟩) := by
  have hbinary : Install.Settings.binaryPath {} = "/opt/ltp/runltp" := by decide +kernel
  have hagree : AgreeBut (staleFiles ⟨{}, {}⟩) (installed none)
      (installed (some "old01 FAIL 1\n")) := by
    intro path hpath
    have hlog : path ≠ "/opt/ltp/ltp-results.log" := by
      rintro rfl
      exact hpath (by decide)
    rw [installed, installed, if_neg hlog, if_neg hlog]
  have hfresh : (installed none "/opt/ltp/runltp").isSome := by decide
  have hold : (installed (some "old01 FAIL 1\n") "/opt/ltp/runltp").isSome := by decide
  exact ⟨hfresh, hold, hagree, runTests_ignores_stale ⟨{}, {}⟩ ["abs01"] [] none scribe
    (fun _ _ _ => none) {} _ _ (hbinary ▸ hfresh) (hbinary ▸ hold) hagree⟩

end Runner

end Testbed

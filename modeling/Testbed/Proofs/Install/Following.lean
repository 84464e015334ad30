import Testbed.Proofs.Install.Plan
import Testbed.Proofs.Node.PlanScript

/-!
# An installation follows its plan

An installation is the script of its plan, stage by stage. What a stage learns is left out of what the
installation hands on, so stages are compared together with what is done after them.

Headline: **`install_follows`**: on a fresh node, an installation follows the plan, whatever the node
answers, and ends well just if the plan is followed to its end.
-/

namespace Testbed.Install

open Node (Conversation Exchange change)
open Plan (Item Follows must script)

/-! ## The parts of an installation -/

variable {s : Settings} {facts : Facts} {rest : List Entry} {system : Os.System}
  {directory : String} {α : Type} {k : Facts → Step α} {K : Step α} {K' : String → Step α}

theorem script_systemEntry : script (systemEntry :: rest) facts =
    detectSystem >>= fun system => script rest { facts with system := some system } := by
  rw [Plan.script_cons_readText rfl, detectSystem, bind_assoc]
  exact congrArg _ (funext fun text => Plan.mk_map_bind _ _ _)

theorem script_refreshEntry (h : facts.system = some system) : script (refreshEntry :: rest) facts =
    refreshIndex system.family >>= fun _ => script rest facts := by
  have hknown : facts.system.bind (·.family.manager.refresh?) = system.family.manager.refresh? := by
    rw [h, Option.bind_some]
  rw [refreshIndex, Os.refreshCommand?_eq]
  cases hc : system.family.manager.refresh? with
  | none =>
    have hentry : refreshEntry facts = none := Item.about_of_none (hknown.trans hc)
    rw [Plan.script_cons_none hentry, pure_bind]
  | some command =>
    have hentry : refreshEntry facts = some (must .node
        ⟨command, true, false, none, some 1800000⟩ facts) :=
      Item.about_of_some (hknown.trans hc)
    rw [Plan.script_cons_must hentry, bind_assoc]
    rfl

/-- A set of packages is installed by their names. -/
theorem script_packageEntry {names : Os.System → String} {packages : List String}
    (h : facts.system = some system) (hne : packages.isEmpty = false)
    (hnames : String.intercalate " " packages = names system) :
    script (packageEntry names :: rest) facts =
      installPackages system.family packages >>= fun _ => script rest facts := by
  rw [Plan.script_cons_must (Item.about_of_some h), installPackages,
    if_neg (by rw [hne]; exact Bool.false_ne_true), bind_assoc, Os.installCommand_eq, hnames]
  rfl

theorem packages_ne_nil (system : Os.System) : system.packages.isEmpty = false := by
  unfold Os.System.packages
  split <;> rfl

theorem script_packagePlan (h : facts.system = some system) :
    script (refreshEntry :: (packagePlan ++ rest)) facts =
      installDependencies system >>= fun _ => script rest facts := by
  simp only [packagePlan, List.cons_append, List.nil_append, installDependencies, bind_assoc]
  have htools : String.intercalate " " Os.buildTools = "git gcc make" := by decide +kernel
  have hcommon : String.intercalate " " Os.commonPackages =
      "m4 bison flex psmisc autoconf automake" := by decide +kernel
  rw [script_refreshEntry h, script_packageEntry h rfl htools, script_packageEntry h rfl hcommon,
    script_packageEntry h (packages_ne_nil system) (Os.intercalate_packages system)]

theorem script_budgetWrites : script (budgetWrites ++ rest) facts =
    (if facts.share = some 0 then controlGroups.forM setBudget else pure ()) >>= fun _ =>
      script rest facts := by
  by_cases h : facts.share = some 0
  · have hwrite : ∀ path content rest, script (budgetEntry path content :: rest) facts =
        onNode (Node.writeFile path content true) >>= fun _ => script rest facts :=
      fun _ _ _ => Plan.script_cons_perform (Item.onlyIf_of_true (beq_iff_eq.mpr h))
    simp only [budgetWrites, List.cons_append, List.nil_append, hwrite, if_pos h, controlGroups,
      List.forM, setBudget, bind_assoc, pure_bind]
    rfl
  · rw [if_neg h, pure_bind, Plan.script_append_none]
    simp [budgetWrites, budgetEntry, Item.onlyIf, h]

/-- What is asked for the budget; what is done afterwards must not depend on it. -/
theorem script_budgetPlan (h : facts.share = none) (hrest : ∀ facts, script rest facts >>= k = K) :
    script (budgetPlan ++ rest) facts >>= k = tuneRealTime >>= fun _ => K := by
  simp only [budgetPlan, List.cons_append]
  rw [Plan.script_cons_probe rfl, tuneRealTime, bind_assoc, bind_assoc]
  refine congrArg _ (funext fun present => ?_)
  rw [Plan.mk_ok_bind]
  cases present with
  | false =>
    rw [Plan.script_cons_none rfl, script_budgetWrites, if_neg (by simp [h]), pure_bind, hrest]
    rfl
  | true =>
    rw [Plan.script_cons_readText rfl, if_pos rfl, bind_assoc, bind_assoc]
    refine congrArg _ (funext fun content => ?_)
    rw [Plan.mk_map_bind, bind_assoc, bind_assoc]
    refine congrArg _ (funext fun share => ?_)
    rw [script_budgetWrites, bind_assoc]
    simp only [Option.some.injEq, hrest]

theorem script_swapFilePlan (h : facts.swapMb.any (· < s.minSwapMb) = true) :
    script (swapFilePlan s ++ rest) facts =
      ((swapCommands s).forM fun command => onNode (Node.perform command true)) >>= fun _ =>
        script rest facts := by
  have hchange : ∀ command rest, script (swapEntry s command :: rest) facts =
      onNode (Node.perform command true) >>= fun _ => script rest facts :=
    fun _ _ => Plan.script_cons_perform (Item.onlyIf_of_true h)
  exact Plan.script_map_append hchange (swapCommands s)

/-- What is asked for the swap space; what is done afterwards must not depend on it. -/
theorem script_swapPlan (hrest : ∀ facts, script rest facts >>= k = K) :
    script (swapPlan s ++ rest) facts >>= k = ensureSwap s >>= fun _ => K := by
  rw [swapPlan, List.cons_append, Plan.script_cons_learn rfl, ensureSwap, bind_assoc, bind_assoc]
  refine congrArg _ (funext fun total => ?_)
  by_cases h : total < s.minSwapMb
  · rw [script_swapFilePlan (by simpa using h), if_pos h, bind_assoc, hrest]
  · rw [Plan.script_append_none (by simp [swapFilePlan, swapEntry, Item.onlyIf, h]), if_neg h, hrest]
    rfl

theorem script_dirtyPlan : script (dirtyPlan ++ rest) facts =
    tuneDirtyPages >>= fun _ => script rest facts := by
  simp only [dirtyPlan, List.cons_append, List.nil_append]
  rw [Plan.script_cons_perform rfl, Plan.script_cons_perform rfl, Plan.script_cons_perform rfl,
    tuneDirtyPages, bind_assoc, bind_assoc]
  rfl

/-! ## The build -/

theorem script_directoryEntry {request : String → Request} (h : facts.directory = some directory) :
    script (directoryEntry request :: rest) facts =
      onNode (Node.executeChecked (request directory)) >>= fun _ => script rest facts :=
  Plan.script_cons_must (Item.about_of_some h)

theorem script_directoryChange {command : String → String} (h : facts.directory = some directory) :
    script (directoryEntry (fun d => change (command d) true) :: rest) facts =
      onNode (Node.perform (command directory) true) >>= fun _ => script rest facts :=
  Plan.script_cons_perform (Item.about_of_some h)

/-- What is asked for the build directory; what is done afterwards may depend on where it is. -/
theorem script_directoryPlan
    (hrest : ∀ facts directory, facts.directory = some directory →
      script rest facts >>= k = K' directory) :
    script (directoryPlan s ++ rest) facts >>= k =
      onNode (Node.findSpace s.requiredDiskGb) >>= fun mountPoint =>
        clearDirectory (inside mountPoint s.directoryName) >>= fun _ =>
          K' (inside mountPoint s.directoryName) := by
  simp only [directoryPlan, List.cons_append, List.nil_append]
  rw [Plan.script_cons_learn rfl, bind_assoc]
  refine congrArg _ (funext fun mountPoint => ?_)
  generalize inside mountPoint s.directoryName = directory
  rw [Plan.script_cons_probe rfl, clearDirectory, bind_assoc, bind_assoc]
  refine congrArg _ (funext fun present => ?_)
  have hk : script rest { facts with directory := some directory, occupied := present } >>= k =
      K' directory := hrest _ _ rfl
  rw [Plan.mk_ok_bind]
  cases present with
  | false =>
    rw [Plan.script_cons_none rfl, script_directoryChange rfl, script_directoryChange rfl]
    simp only [Bool.false_eq_true, if_false, bind_assoc, hk]
    rfl
  | true =>
    rw [Plan.script_cons_perform rfl, script_directoryChange rfl, script_directoryChange rfl]
    simp only [if_true, bind_assoc, hk]
    rfl

theorem script_sourcePlan (h : facts.directory = some directory) :
    script (sourcePlan s ++ rest) facts =
      fetchSources s directory >>= fun _ => script rest facts := by
  simp only [sourcePlan, List.cons_append, List.nil_append]
  rw [script_directoryEntry h, script_directoryEntry h, fetchSources, bind_assoc, runIn, bind_assoc]
  rfl

theorem script_jobsEntry : script (jobsEntry :: rest) facts =
    onNode Node.processors >>= fun jobs => script rest { facts with jobs := some jobs } :=
  Plan.script_cons_learn rfl

theorem script_buildEntry {command : Nat → String} {jobs : Nat}
    (hd : facts.directory = some directory) (hj : facts.jobs = some jobs) :
    script (buildEntry s command :: rest) facts =
      runIn directory (command jobs) true (some s.buildLimitMs) >>= fun _ => script rest facts := by
  have hentry : buildEntry s command facts = some (must .node
      ⟨command jobs, true, true, some directory, some (s.buildTimeoutSecs * 1000)⟩ facts) :=
    (Item.about_of_some hd).trans (Item.about_of_some hj)
  rw [Plan.script_cons_must hentry, runIn, bind_assoc]
  rfl

theorem script_makePlan {jobs : Nat} (hd : facts.directory = some directory)
    (hj : facts.jobs = some jobs) : script (makePlan s ++ rest) facts =
      ((buildCommands s jobs).forM fun command =>
        runIn directory command true (some s.buildLimitMs)) >>= fun _ => script rest facts := by
  simp only [makePlan, List.cons_append, List.nil_append, script_buildEntry hd hj, buildCommands,
    List.forM, bind_assoc, pure_bind]

/-- What is asked for the build; what is done afterwards must not depend on it. -/
theorem script_build (hrest : ∀ facts, script rest facts >>= k = K) :
    script (directoryPlan s ++ (sourcePlan s ++ (jobsEntry :: (makePlan s ++ rest)))) facts >>= k =
      build s >>= fun _ => K := by
  have hmake : ∀ facts directory, facts.directory = some directory →
      script (sourcePlan s ++ (jobsEntry :: (makePlan s ++ rest))) facts >>= k =
        fetchSources s directory >>= fun _ => onNode Node.processors >>= fun jobs =>
          ((buildCommands s jobs).forM fun command =>
            runIn directory command true (some s.buildLimitMs)) >>= fun _ => K := by
    intro facts directory hd
    rw [script_sourcePlan hd, script_jobsEntry, bind_assoc]
    refine congrArg _ (funext fun _ => ?_)
    rw [bind_assoc]
    refine congrArg _ (funext fun jobs => ?_)
    have hd' : { facts with jobs := some jobs }.directory = some directory := hd
    rw [script_makePlan hd' rfl, bind_assoc, hrest]
  rw [script_directoryPlan hmake, build]
  simp only [bind_assoc]

/-- **An installation is its plan.** -/
theorem install_eq (s : Settings) : install s = (fun _ => ()) <$> script (plan s) {} := by
  have hlast : ∀ facts, script [lastEntry s] facts >>= (fun _ => pure ()) =
      isInstalled s >>= fun present =>
        if !present then throw (.notInstalled s.binaryPath) else pure () := by
    intro facts
    rw [Plan.script_cons_probe rfl, bind_assoc]
    refine congrArg _ (funext fun present => ?_)
    cases present <;> rfl
  rw [map_eq_pure_bind]
  simp only [plan, works, List.cons_append, List.append_assoc]
  rw [script_systemEntry, install, bind_assoc]
  refine congrArg _ (funext fun system => ?_)
  rw [script_packagePlan rfl, bind_assoc]
  refine congrArg _ (funext fun _ => ?_)
  refine (script_budgetPlan rfl fun facts => script_swapPlan fun facts => ?_).symm
  rw [script_dirtyPlan, bind_assoc]
  refine congrArg _ (funext fun _ => ?_)
  exact script_build hlast

/-! ## Following the plan -/

/-- The last look is followed to its end just if the program is there. -/
theorem follows_lastEntry {facts' : Facts} {t : List Exchange} :
    Follows [lastEntry s] facts t (.ok facts') ↔ ∃ output, facts' = facts ∧
      t = [(Plan.probeRequest s.binaryPath true, .ok output)] ∧ output.exitCode = 0 := by
  rw [Plan.follows_cons_some rfl]
  constructor
  · rintro ⟨answer, u, rfl, ⟨e, -, -, h⟩ | ⟨facts₁, ha, h⟩⟩
    · cases h
    · obtain ⟨present, hpresent, htell⟩ := Plan.judge_of_eq_ok_iff.mp ha
      cases present with
      | false => cases htell
      | true =>
        cases htell
        cases h
        obtain ⟨output, rfl, hexit⟩ := Plan.probed_eq_true_iff.mp hpresent
        exact ⟨output, rfl, rfl, hexit⟩
  · rintro ⟨output, rfl, rfl, hexit⟩
    have hpresent : Plan.probed s.binaryPath (.ok output) = .ok true :=
      Plan.probed_eq_true_iff.mpr ⟨output, rfl, hexit⟩
    exact ⟨_, _, rfl, Or.inr ⟨_, Plan.judge_of_eq_ok_iff.mpr ⟨true, hpresent, rfl⟩, .finish _⟩⟩

/-- **An installation follows its plan**: on a fresh node, what is asked of the world behind it follows
the plan, up to the first failure, which is the answer. The installation ends well just if all works
ended well and the last look finds the program. -/
theorem install_follows {σ : Type} (s : Settings) (exec : Request → StateM σ Answer) (st : σ) :
    ∃ t outcome answer cache st', (install s).runOn exec {} st = ((answer, cache), st') ∧
      Conversation exec st t st' ∧ Follows (plan s) {} t outcome ∧
      answer = outcome.map (fun _ => ()) ∧
      (answer = .ok () ↔ ∃ u facts output, Follows (works s) {} u (.ok facts) ∧
        t = u ++ [(Plan.probeRequest s.binaryPath true, .ok output)] ∧ output.exitCode = 0) := by
  generalize hrun : (install s).runOn exec {} st = result
  obtain ⟨⟨answer, cache⟩, st'⟩ := result
  obtain ⟨t, hplays, hconversation⟩ := Node.runOn_eq_iff.mp hrun
  rw [install_eq, Plan.plays_map_script_iff] at hplays
  obtain ⟨outcome, hfollows, rfl⟩ := hplays
  refine ⟨t, outcome, _, cache, st', rfl, ?_, hfollows, rfl, ?_, ?_⟩
  · exact hconversation.passed_on (fun _ _ => Or.inr rfl) (hfollows.pairwise (pairwise_plan s))
  · intro hok
    cases outcome with
    | error e => cases hok
    | ok facts =>
      obtain ⟨u, v, known, rfl, hu, hv⟩ := Plan.follows_append_ok_iff.mp hfollows
      obtain ⟨output, rfl, rfl, hexit⟩ := follows_lastEntry.mp hv
      exact ⟨u, _, output, hu, rfl, hexit⟩
  · rintro ⟨u, facts, output, hu, rfl, hexit⟩
    have hall : Follows (plan s) {} _ (.ok facts) :=
      Plan.follows_append_ok_iff.mpr ⟨u, _, facts, rfl, hu, follows_lastEntry.mpr
        ⟨output, rfl, rfl, hexit⟩⟩
    obtain ⟨-, rfl⟩ := hfollows.unique hall (List.prefix_refl _)
    rfl

end Testbed.Install

import Testbed.Proofs.Install.Following
import Testbed.Proofs.Install.Remembered
import Testbed.Proofs.Node.Recall

/-!
# Trying an installation again

An installation that has failed leaves results in the memory of its node: those of the quiet requests,
however the commands ended. When it is tried again, they stand in for what the node would answer now.

* `EndsWell f r`: the command of a request ends well.
* `Usable s f cache`: what is remembered can be made use of where the answers to all else are those of
  `f`: it tells of a system that can be prepared, and of a number of jobs that the build works with.

Results:
* `outcome_install_eq_ok_iff`, `outcome_build_eq_ok_iff`: an installation ends well if its stages do.

Headline: **`retry_ok_iff`**: where an installation of a fresh node ends well, trying again ends well
just if what the failed one has left in memory is usable; `retry_of_busy_index` fails for a failure that
is over.
-/

namespace Testbed.Install

open Node (AsksOnly Conversation Forced answering outcome recalling settled)

variable {s : Settings} {f : Request → Answer} {cache : Cache} {system : Os.System}

/-! ## When the stages end well -/

/-- The command of a request ends well. -/
def EndsWell (f : Request → Answer) (r : Request) : Prop :=
  ∃ output, f r = .ok output ∧ output.exitCode = 0

/-- The request that installs packages. -/
def packageRequest (family : Os.Family) (packages : List String) : Request :=
  ⟨family.installCommand packages, true, true, none, some packageLimitMs⟩

/-- The request for a command of the build. -/
def buildRequest (s : Settings) (directory command : String) : Request :=
  ⟨command, true, true, some directory, some s.buildLimitMs⟩

/-- The sets of packages that a system needs. -/
def packageSets (system : Os.System) : List (List String) :=
  [Os.buildTools, Os.commonPackages, system.packages]

/-- A command whose output is not looked at. -/
theorem outcome_required_eq_ok_iff {r : Request} :
    outcome f (onNode (Node.executeChecked r) >>= fun _ => (pure () : Step Unit)) = .ok () ↔
      EndsWell f r := by
  rw [Node.outcome_bind_eq_ok_iff]
  constructor
  · rintro ⟨output, h, -⟩
    exact ⟨output, Node.outcome_executeChecked_eq_ok_iff.mp (Node.outcome_adapt_eq_ok_iff.mp h)⟩
  · rintro ⟨output, h⟩
    exact ⟨output, Node.outcome_adapt_eq_ok_iff.mpr (Node.outcome_executeChecked_eq_ok_iff.mpr h), rfl⟩

theorem outcome_detectSystem_eq_ok_iff : outcome f detectSystem = .ok system ↔
    ∃ output, f systemRequest = .ok output ∧ output.exitCode = 0 ∧
      identify output.stdout = .ok system := by
  have hread : ∀ text, outcome f (onNode Node.osRelease) = .ok text ↔
      ∃ output, (f systemRequest = .ok output ∧ output.exitCode = 0) ∧ text = output.stdout := by
    intro text
    rw [onNode, Node.outcome_adapt_eq_ok_iff, Node.osRelease, Node.readText,
      Node.outcome_bind_eq_ok_iff]
    simp only [Node.outcome_executeChecked_eq_ok_iff]
    constructor
    · rintro ⟨output, houtput, ⟨⟩⟩
      exact ⟨output, houtput, rfl⟩
    · rintro ⟨output, houtput, rfl⟩
      exact ⟨output, houtput, rfl⟩
  rw [detectSystem, Node.outcome_bind_eq_ok_iff]
  simp only [hread, Node.outcome_mk]
  constructor
  · rintro ⟨_, ⟨output, ⟨houtput, hexit⟩, rfl⟩, hsystem⟩
    exact ⟨output, houtput, hexit, hsystem⟩
  · rintro ⟨output, houtput, hexit, hsystem⟩
    exact ⟨_, ⟨output, ⟨houtput, hexit⟩, rfl⟩, hsystem⟩

theorem outcome_refreshIndex_eq_ok_iff {family : Os.Family} :
    outcome f (refreshIndex family) = .ok () ↔
      ∀ command, family.refreshCommand? = some command → EndsWell f (refreshRequest command) := by
  rw [refreshIndex]
  cases family.refreshCommand? with
  | none => exact iff_of_true rfl fun _ h => absurd h (Option.some_ne_none _).symm
  | some command =>
    rw [outcome_required_eq_ok_iff]
    constructor
    · rintro h _ ⟨⟩
      exact h
    · exact fun h => h command rfl

theorem outcome_installPackages_eq_ok_iff {family : Os.Family} {packages : List String}
    (h : packages.isEmpty = false) : outcome f (installPackages family packages) = .ok () ↔
      EndsWell f (packageRequest family packages) := by
  rw [installPackages, if_neg (by rw [h]; exact Bool.false_ne_true), outcome_required_eq_ok_iff,
    packageRequest]

theorem outcome_installDependencies_eq_ok_iff : outcome f (installDependencies system) = .ok () ↔
    (∀ command, system.family.refreshCommand? = some command →
      EndsWell f (refreshRequest command)) ∧
    ∀ packages ∈ packageSets system, EndsWell f (packageRequest system.family packages) := by
  rw [installDependencies, Node.outcome_seq_eq_ok_iff, Node.outcome_seq_eq_ok_iff,
    Node.outcome_seq_eq_ok_iff, outcome_refreshIndex_eq_ok_iff, outcome_installPackages_eq_ok_iff rfl,
    outcome_installPackages_eq_ok_iff rfl,
    outcome_installPackages_eq_ok_iff (packages_ne_nil system)]
  simp [packageSets]

theorem outcome_processors_eq_ok_iff {jobs : Nat} : outcome f (onNode Node.processors) = .ok jobs ↔
    ∃ output, f jobsRequest = .ok output ∧ output.exitCode = 0 ∧
      Node.readProcessors output.stdout = .ok jobs := by
  rw [onNode, Node.outcome_adapt_eq_ok_iff, Node.processors, Node.outcome_bind_eq_ok_iff]
  simp only [Node.outcome_executeChecked_eq_ok_iff, Node.outcome_mk, and_assoc, jobsRequest]

theorem outcome_buildCommands_eq_ok_iff {directory : String} {jobs : Nat} :
    outcome f ((buildCommands s jobs).forM fun command =>
        runIn directory command true (some s.buildLimitMs)) = .ok () ↔
      ∀ command ∈ buildCommands s jobs, EndsWell f (buildRequest s directory command) := by
  rw [Node.outcome_forM_eq_ok_iff]
  simp only [runIn, outcome_required_eq_ok_iff, buildRequest]

/-! ## When an installation ends well -/

/-- **A build ends well** if its stages do. -/
theorem outcome_build_eq_ok_iff : outcome f (build s) = .ok () ↔
    ∃ mountPoint, outcome f (onNode (Node.findSpace s.requiredDiskGb)) = .ok mountPoint ∧
      outcome f (clearDirectory (inside mountPoint s.directoryName)) = .ok () ∧
      outcome f (fetchSources s (inside mountPoint s.directoryName)) = .ok () ∧
      ∃ jobs, outcome f (onNode Node.processors) = .ok jobs ∧ ∀ command ∈ buildCommands s jobs,
        EndsWell f (buildRequest s (inside mountPoint s.directoryName) command) := by
  rw [build, Node.outcome_bind_eq_ok_iff]
  simp only [Node.outcome_seq_eq_ok_iff, Node.outcome_bind_eq_ok_iff (x := onNode Node.processors),
    outcome_buildCommands_eq_ok_iff]

/-- **An installation ends well** if its stages do and the program is there. -/
theorem outcome_install_eq_ok_iff : outcome f (install s) = .ok () ↔
    ∃ system, outcome f detectSystem = .ok system ∧
      outcome f (installDependencies system) = .ok () ∧ outcome f tuneRealTime = .ok () ∧
      outcome f (ensureSwap s) = .ok () ∧ outcome f tuneDirtyPages = .ok () ∧
      outcome f (build s) = .ok () ∧ outcome f (isInstalled s) = .ok true := by
  have hlast : outcome f (isInstalled s >>= fun present =>
      if !present then throw (.notInstalled s.binaryPath) else pure ()) = .ok () ↔
        outcome f (isInstalled s) = .ok true := by
    rw [Node.outcome_bind_eq_ok_iff]
    constructor
    · rintro ⟨present, hpresent, h⟩
      cases present with
      | true => exact hpresent
      | false => cases h
    · exact fun h => ⟨true, h, rfl⟩
  rw [install, Node.outcome_bind_eq_ok_iff]
  simp only [Node.outcome_seq_eq_ok_iff, hlast]

/-! ## Trying again -/

/-- What an installation of a fresh node leaves in its memory. -/
def leftBehind {σ : Type} (s : Settings) (exec : Request → StateM σ Answer) (st : σ) : Cache :=
  ((install s).runOn exec {} st).1.2

/-- An installation over a world that answers by a function, on a node that remembers something. -/
def retry (s : Settings) (f : Request → Answer) (cache : Cache) : Except InstallError Unit :=
  ((install s).runOn (answering f) cache ()).1.1

/-- **What is remembered is usable** where the world answers by a function. -/
structure Usable (s : Settings) (f : Request → Answer) (cache : Cache) : Prop where
  /-- The system is told of; renewing its package index ends well, or is remembered to have done so; and
  its packages can be installed. -/
  system : ∃ output system, recalling cache f systemRequest = .ok output ∧ output.exitCode = 0 ∧
    identify output.stdout = .ok system ∧
    (∀ command, system.family.refreshCommand? = some command →
      EndsWell (recalling cache f) (refreshRequest command)) ∧
    ∀ packages ∈ packageSets system, EndsWell f (packageRequest system.family packages)
  /-- A number of processors is told, and with as many jobs the build ends well. -/
  jobs : ∃ output jobs, recalling cache f jobsRequest = .ok output ∧ output.exitCode = 0 ∧
    Node.readProcessors output.stdout = .ok jobs ∧
    ∃ mountPoint, outcome f (onNode (Node.findSpace s.requiredDiskGb)) = .ok mountPoint ∧
      ∀ command ∈ buildCommands s jobs,
        EndsWell f (buildRequest s (inside mountPoint s.directoryName) command)

theorem eq_of_line_eq : ∀ r ∈ quietRequests, ∀ r' ∈ quietRequests, r.line = r'.line → r = r' := by
  decide +kernel

theorem retry_eq (s : Settings) (f : Request → Answer) (cache : Cache) :
    retry s f cache = outcome (recalling cache f) (install s) := by
  refine Node.runOn_answering (ordinary_install s) fun r r' hr hr' hquiet hquiet' hline => ?_
  have hmem : ∀ r, Ordinary r → r.forced = false → r ∈ quietRequests := fun r hr hquiet =>
    hr.resolve_left fun hforced => Bool.noConfusion (hquiet.symm.trans hforced)
  rw [eq_of_line_eq r (hmem r hr hquiet) r' (hmem r' hr' hquiet') hline]

theorem endsWell_of_forced {r : Request} (h : r.forced = true) :
    EndsWell (recalling cache f) r ↔ EndsWell f r := by
  rw [EndsWell, Node.recalling_of_forced h, EndsWell]

/-- Where an installation of a fresh node ends well, all that is forced ends well again. -/
theorem retry_eq_ok_iff (hhealthy : retry s f {} = .ok ()) :
    retry s f cache = .ok () ↔ Usable s f cache := by
  rw [retry_eq, Node.recalling_empty, outcome_install_eq_ok_iff] at hhealthy
  -- Of the healthy run, only the stages that force all they ask say something about a retry.
  obtain ⟨-, -, -, hrealTime, hswap, hdirty, hbuild, hinstalled⟩ := hhealthy
  obtain ⟨mountPoint, hspace, hclear, hfetch, -⟩ := outcome_build_eq_ok_iff.mp hbuild
  have hfound : ∀ m, outcome (recalling cache f) (onNode (Node.findSpace s.requiredDiskGb)) = .ok m ↔
      outcome f (onNode (Node.findSpace s.requiredDiskGb)) = .ok m := fun m => by
    rw [Node.outcome_recalling_of_forced (asksOnly_onNode (forced_findSpace _))]
  rw [retry_eq, outcome_install_eq_ok_iff]
  simp only [outcome_detectSystem_eq_ok_iff, outcome_installDependencies_eq_ok_iff]
  constructor
  · rintro ⟨system, ⟨output, houtput, hexit, hsystem⟩, ⟨hrefresh, hpackages⟩, -, -, -, hbuild, -⟩
    obtain ⟨mountPoint, hspace, -, -, jobs, hjobs, hcommands⟩ := outcome_build_eq_ok_iff.mp hbuild
    obtain ⟨count, hcount, hcountExit, hread⟩ := outcome_processors_eq_ok_iff.mp hjobs
    exact {
      system := ⟨output, system, houtput, hexit, hsystem, hrefresh, fun packages hmem =>
        (endsWell_of_forced rfl).mp (hpackages packages hmem)⟩
      jobs := ⟨count, jobs, hcount, hcountExit, hread, mountPoint, (hfound _).mp hspace,
        fun command hmem => (endsWell_of_forced rfl).mp (hcommands command hmem)⟩ }
  · rintro ⟨⟨output, system, houtput, hexit, hsystem, hrefresh, hpackages⟩,
      count, jobs, hcount, hcountExit, hread, m, hm, hcommands⟩
    obtain rfl : mountPoint = m := Except.ok.inj (hspace.symm.trans hm)
    refine ⟨system, ⟨output, houtput, hexit, hsystem⟩, ⟨hrefresh, fun packages hmem =>
      (endsWell_of_forced rfl).mpr (hpackages packages hmem)⟩, ?_, ?_, ?_, ?_, ?_⟩
    · rw [Node.outcome_recalling_of_forced forced_tuneRealTime, hrealTime]
    · rw [Node.outcome_recalling_of_forced (forced_ensureSwap s), hswap]
    · rw [Node.outcome_recalling_of_forced forced_tuneDirtyPages, hdirty]
    · refine outcome_build_eq_ok_iff.mpr ⟨mountPoint, (hfound _).mpr hspace, ?_, ?_, jobs,
        outcome_processors_eq_ok_iff.mpr ⟨count, hcount, hcountExit, hread⟩, fun command hmem =>
          (endsWell_of_forced rfl).mpr (hcommands command hmem)⟩
      · rw [Node.outcome_recalling_of_forced (forced_clearDirectory _), hclear]
      · rw [Node.outcome_recalling_of_forced (forced_fetchSources s _), hfetch]
    · rw [Node.outcome_recalling_of_forced (forced_isInstalled s), hinstalled]

/-- What is remembered does no harm where it is what would be answered now. -/
theorem retry_of_agrees (hhealthy : retry s f {} = .ok ())
    (hagrees : ∀ r ∈ quietRequests, ∀ output, cache.find? r.line = some output → f r = .ok output) :
    retry s f cache = .ok () := by
  have hsame : ∀ r, Ordinary r → recalling cache f r = f r := by
    rintro r (hforced | hquiet)
    · exact Node.recalling_of_forced hforced
    · rw [recalling]
      cases hrecall : cache.recalled? r with
      | none => rfl
      | some output =>
        exact (hagrees r hquiet output (Node.recalled?_eq_some_iff.mp hrecall).2).symm
  rw [retry_eq, Node.recalling_empty] at hhealthy
  rw [retry_eq, Node.outcome_congr (ordinary_install s) hsame, hhealthy]

/-- What a failed installation leaves in memory is what it was answered. -/
theorem exists_answered {σ : Type} {exec : Request → StateM σ Answer} {st : σ} {e : InstallError}
    (hfailed : ((install s).runOn exec {} st).1.1 = .error e) :
    ∃ t st', (install s).runOn exec {} st = ((.error e, leftBehind s exec st), st') ∧
      Conversation exec st t st' ∧ (leftBehind s exec st).entries = t.filterMap settled := by
  rw [leftBehind]
  generalize hrun : (install s).runOn exec {} st = result at hfailed
  obtain ⟨⟨answer, cache⟩, st'⟩ := result
  obtain ⟨t, -, hserved⟩ := Node.runOn_eq_iff.mp hrun
  obtain ⟨u, hpassed, -, -, hentries⟩ := hserved.exists_passed
  exact ⟨u, st', by rw [← hfailed], hpassed, hentries⟩

/-- **Whether an installation can be tried again**: where one on a fresh node has failed, whatever the
reason, and where one on a fresh node would now end well, trying again on the node of the failed one
ends well just if what this has left in memory is usable. It is, if it is what the node would answer
now; and it is made of what the failed one was answered. -/
theorem retry_ok_iff {σ : Type} (s : Settings) (exec : Request → StateM σ Answer) (st : σ)
    (e : InstallError) (hfailed : ((install s).runOn exec {} st).1.1 = .error e)
    (f : Request → Answer) (hhealthy : retry s f {} = .ok ()) :
    (retry s f (leftBehind s exec st) = .ok () ↔ Usable s f (leftBehind s exec st)) ∧
    ((∀ r ∈ quietRequests, ∀ output, (leftBehind s exec st).find? r.line = some output →
      f r = .ok output) → retry s f (leftBehind s exec st) = .ok ()) ∧
    ∃ t st', (install s).runOn exec {} st = ((.error e, leftBehind s exec st), st') ∧
      Conversation exec st t st' ∧ (leftBehind s exec st).entries = t.filterMap settled :=
  ⟨retry_eq_ok_iff hhealthy, retry_of_agrees hhealthy, exists_answered hfailed⟩

/-! ### Samples -/

/-- What a node of the Debian family tells. -/
def debianText (command : String) : String :=
  if command = "cat /etc/os-release" then "ID=debian\n"
  else if command = "free -m" then "Swap: 2048\n"
  else if command = "df -P -k" then "Filesystem\n/dev/sdb1 0 0 2097152 0% /mnt\n"
  else if command = "nproc" then "4\n" else ""

/-- A node of the Debian family on which all commands end well; there is no real-time budget. -/
def debian (r : Request) : Answer :=
  .ok {
    exitCode := if r.command = "test -e " ++ Shell.quote budgetFile then 1 else 0
    stdout := debianText r.command }

/-- The same with a disk that is full. -/
def debianFull (r : Request) : Answer :=
  if r.command = "df -P -k" then .ok { exitCode := 0, stdout := "Filesystem\n" } else debian r

/-- The same while another program holds the package index. -/
def debianBusy (r : Request) : Answer :=
  if r.command = "apt-get update -q" then
    .ok { exitCode := 100, stderr := "E: Could not get lock" } else debian r

theorem retry_debian : retry {} debian {} = .ok () := by decide +kernel

/-- The disk is full, and then it is not. -/
theorem retry_after_full_disk :
    ((install {}).runOn (answering debianFull) {} ()).1.1 =
      .error (.node (.unexpectedOutput "df -P -k" "no partition with 2GB free space")) ∧
    retry {} debian {} = .ok () ∧
    retry {} debian (leftBehind {} (answering debianFull) ()) = .ok () := by
  have hfailed : ((install {}).runOn (answering debianFull) {} ()).1.1 =
      .error (.node (.unexpectedOutput "df -P -k" "no partition with 2GB free space")) := by
    decide +kernel
  refine ⟨hfailed, retry_debian,
    (retry_ok_iff {} (answering debianFull) () _ hfailed debian retry_debian).2.1 ?_⟩
  decide +kernel

/-- The package index is busy, and then it is not; but the node remembers that it was, and does not try
again to renew it. -/
theorem retry_of_busy_index :
    ((install {}).runOn (answering debianBusy) {} ()).1.1 =
      .error (.node (.commandFailed "apt-get update -q" 100 "E: Could not get lock")) ∧
    retry {} debian {} = .ok () ∧
    retry {} debian (leftBehind {} (answering debianBusy) ()) =
      .error (.node (.commandFailed "apt-get update -q" 100 "E: Could not get lock")) := by
  refine ⟨?_, retry_debian, ?_⟩ <;> decide +kernel

end Testbed.Install

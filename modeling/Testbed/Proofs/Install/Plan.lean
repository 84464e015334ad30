import Testbed.Install.Build
import Testbed.Proofs.Node.Plan
import Testbed.Proofs.Os.Packages

/-!
# The plan of an installation

`plan` lists all that is asked of a node that is prepared, in order, with the conditions under which
parts of it are left out. `Facts` are what these conditions and the requests themselves depend on;
each is learnt from the answer to an earlier request.

Result: `pairwise_plan`: the plan asks nothing twice that a node might answer from memory.
-/

namespace Testbed.Install

open Node (Apart change)
open Plan (Item must note probe)

/-- What is known of a node that is prepared. -/
structure Facts where
  system : Option Os.System := none
  /-- Whether there is a real-time budget, and the share that it gives. -/
  budgeted : Bool := false
  share : Option Int := none
  swapMb : Option Nat := none
  /-- The build directory, and whether something stands there. -/
  directory : Option String := none
  occupied : Bool := false
  jobs : Option Nat := none

/-- An item of the plan. -/
abbrev Entry := Item Facts InstallError

/-! ## The plan -/

/-- Finding out the system. -/
def systemEntry : Entry :=
  .always fun facts =>
    note .node { command := "cat " ++ Shell.quote "/etc/os-release" } fun text =>
      (identify text).map fun system => { facts with system := some system }

/-- The package index, where it needs to be renewed. This is not forced; it may take half an hour. -/
def refreshEntry : Entry :=
  .about (fun facts => facts.system.bind (·.family.manager.refresh?)) fun command =>
    .always (must .node ⟨command, true, false, none, some 1800000⟩)

/-- A set of packages. -/
def packageEntry (names : Os.System → String) : Entry :=
  .about (·.system) fun system => .always (must .node
    ⟨system.family.manager.install ++ " " ++ names system, true, true, none, some 1800000⟩)

/-- Three sets of packages: the tools of the build, what all families have in common, and what the
family adds. -/
def packagePlan : List Entry :=
  [packageEntry fun _ => "git gcc make",
    packageEntry fun _ => "m4 bison flex psmisc autoconf automake", packageEntry (·.packageNames)]

/-- Writing a file of the budget, if the budget gives no share. -/
def budgetEntry (path content : String) : Entry :=
  .onlyIf (·.share == some 0) (.always (must .node
    (change ("printf '%s' " ++ Shell.quote content ++ " > " ++ Shell.quote path) true)))

/-- The files of the budget: the period and the share of all processes, then those of users. -/
def budgetWrites : List Entry :=
  [budgetEntry "/sys/fs/cgroup/cpu/cpu.rt_period_us" "1000000",
    budgetEntry "/sys/fs/cgroup/cpu/cpu.rt_runtime_us" "950000",
    budgetEntry "/sys/fs/cgroup/cpu/user.slice/cpu.rt_period_us" "1000000",
    budgetEntry "/sys/fs/cgroup/cpu/user.slice/cpu.rt_runtime_us" "950000"]

/-- The real-time budget: nothing but a look, unless it is there and gives no share. -/
def budgetPlan : List Entry :=
  .always (fun facts =>
      probe .node "/sys/fs/cgroup/cpu/user.slice/cpu.rt_runtime_us" false fun present =>
        .ok { facts with budgeted := present }) ::
    .onlyIf (·.budgeted) (.always fun facts =>
      note .node ⟨"cat " ++ Shell.quote "/sys/fs/cgroup/cpu/user.slice/cpu.rt_runtime_us", true, true,
        none, none⟩ fun content =>
          (readBudget content).map fun share => { facts with share := some share }) ::
    budgetWrites

/-- A command for the swap file, if there is too little swap space. -/
def swapEntry (s : Settings) (command : String) : Entry :=
  .onlyIf (·.swapMb.any (· < s.minSwapMb)) (.always (must .node (change command true)))

/-- The commands for the swap file. -/
def swapFilePlan (s : Settings) : List Entry :=
  [swapEntry s ("dd if=/dev/zero of=" ++ Shell.quote s.swapFile ++ " bs=1M count=" ++
      toString s.swapFileSizeMb),
    swapEntry s ("chmod 600 " ++ Shell.quote s.swapFile),
    swapEntry s ("mkswap " ++ Shell.quote s.swapFile),
    swapEntry s ("swapon " ++ Shell.quote s.swapFile)]

/-- The swap space. -/
def swapPlan (s : Settings) : List Entry :=
  .always (fun facts => note .node (change "free -m" false) fun output =>
      ((Node.readSwapTotal output).mapError .node).map fun total =>
        { facts with swapMb := some total }) ::
    swapFilePlan s

/-- The kernel parameters for changed pages. -/
def dirtyPlan : List Entry :=
  [.always (must .node (change ("sysctl -w " ++ Shell.quote "vm.dirty_ratio=10") true)),
    .always (must .node (change ("sysctl -w " ++ Shell.quote "vm.dirty_background_ratio=5") true)),
    .always (must .node (change "sysctl -p" true))]

/-- A command that is about the build directory. -/
def directoryEntry (request : String → Request) : Entry :=
  .about (·.directory) fun directory => .always (must .node (request directory))

/-- The build directory is found and emptied. -/
def directoryPlan (s : Settings) : List Entry :=
  [.always fun facts => note .node (change "df -P -k" false) fun output =>
      ((Node.chooseMountPoint s.requiredDiskGb output).mapError .node).map fun mountPoint =>
        { facts with directory := some (inside mountPoint s.directoryName) },
    .about (·.directory) fun directory => .always fun facts =>
      probe .node directory true fun present => .ok { facts with occupied := present },
    .onlyIf (·.occupied)
      (directoryEntry fun directory => change ("rm -rf " ++ Shell.quote directory) true),
    directoryEntry fun directory => change ("mkdir -p " ++ Shell.quote directory) true,
    directoryEntry fun directory =>
      change ("chmod -R " ++ Shell.quote "a+rwX" ++ " " ++ Shell.quote directory) true]

/-- The sources are fetched. -/
def sourcePlan (s : Settings) : List Entry :=
  [directoryEntry fun directory =>
      ⟨"git clone " ++ Shell.quote s.gitUrl ++ " " ++ Shell.quote directory, false, true, none,
        some (s.buildTimeoutSecs * 1000)⟩,
    directoryEntry fun directory =>
      ⟨"git checkout " ++ Shell.quote ("tags/" ++ s.gitTag), false, true, some directory, none⟩]

/-- The number of jobs is found out. -/
def jobsEntry : Entry :=
  .always fun facts => note .node { command := "nproc" } fun output =>
    ((Node.readProcessors output).mapError .node).map fun jobs => { facts with jobs := some jobs }

/-- A command that is run in the build directory. -/
def buildEntry (s : Settings) (command : Nat → String) : Entry :=
  .about (·.directory) fun directory => .about (·.jobs) fun jobs =>
    .always (must .node
      ⟨command jobs, true, true, some directory, some (s.buildTimeoutSecs * 1000)⟩)

/-- The commands that build the suite and install it. -/
def makePlan (s : Settings) : List Entry :=
  [buildEntry s fun _ => "autoreconf -f",
    buildEntry s fun _ => "make autotools",
    buildEntry s fun _ => "./configure --prefix=" ++ Shell.quote s.installRoot,
    buildEntry s fun jobs => "make -j " ++ toString jobs ++ " all",
    buildEntry s fun jobs => "make -j " ++ toString jobs ++ " install SKIP_IDCHECK=1"]

/-- The last look: the program that runs tests has to be there. -/
def lastEntry (s : Settings) : Entry :=
  .always fun facts => probe .node s.binaryPath true fun present =>
    if present then .ok facts else .error (.notInstalled s.binaryPath)

/-- All that is done for an installation. -/
def works (s : Settings) : List Entry :=
  systemEntry :: refreshEntry :: (packagePlan ++ (budgetPlan ++ (swapPlan s ++ (dirtyPlan ++
    (directoryPlan s ++ (sourcePlan s ++ (jobsEntry :: makePlan s)))))))

/-- **The plan of an installation**: the works, and a last look. -/
def plan (s : Settings) : List Entry := works s ++ [lastEntry s]

/-! ## What is asked without force -/

theorem forced_packagePlan : ∀ item ∈ packagePlan, item.Forced := by
  have h : ∀ packages, (packageEntry packages).Forced := fun _ =>
    Item.forced_about fun _ => Item.forced_always fun _ => rfl
  simp [packagePlan, h]

theorem forced_budgetPlan : ∀ item ∈ budgetPlan, item.Forced := by
  have h : ∀ path content, (budgetEntry path content).Forced := fun _ _ =>
    Item.forced_onlyIf (Item.forced_always fun _ => rfl)
  simp only [budgetPlan, budgetWrites, List.forall_mem_cons, h]
  exact ⟨Item.forced_always fun _ => rfl, Item.forced_onlyIf (Item.forced_always fun _ => rfl),
    by simp⟩

theorem forced_swapPlan (s : Settings) : ∀ item ∈ swapPlan s, item.Forced := by
  have h : ∀ command, (swapEntry s command).Forced := fun _ =>
    Item.forced_onlyIf (Item.forced_always fun _ => rfl)
  simp only [swapPlan, swapFilePlan, List.forall_mem_cons, h]
  exact ⟨Item.forced_always fun _ => rfl, by simp⟩

theorem forced_dirtyPlan : ∀ item ∈ dirtyPlan, item.Forced := by
  have h : ∀ command, Item.Forced
      (.always (must InstallError.node (change command true)) : Entry) := fun _ =>
    Item.forced_always fun _ => rfl
  simp [dirtyPlan, h]

theorem forced_directoryEntry {request : String → Request} (h : ∀ d, (request d).forced = true) :
    (directoryEntry request).Forced :=
  Item.forced_about fun d => Item.forced_always fun _ => h d

theorem forced_directoryPlan (s : Settings) : ∀ item ∈ directoryPlan s, item.Forced := by
  have h : ∀ command : String → String,
      (directoryEntry fun d => change (command d) true).Forced := fun _ =>
    forced_directoryEntry fun _ => rfl
  simp only [directoryPlan, List.forall_mem_cons, h]
  exact ⟨Item.forced_always fun _ => rfl,
    Item.forced_about fun _ => Item.forced_always fun _ => rfl, Item.forced_onlyIf (h _), by simp⟩

theorem forced_sourcePlan (s : Settings) : ∀ item ∈ sourcePlan s, item.Forced := by
  simp only [sourcePlan, List.forall_mem_cons]
  exact ⟨forced_directoryEntry fun _ => rfl, forced_directoryEntry fun _ => rfl, by simp⟩

theorem forced_makePlan (s : Settings) : ∀ item ∈ makePlan s ++ [lastEntry s], item.Forced := by
  have h : ∀ command, (buildEntry s command).Forced := fun _ =>
    Item.forced_about fun _ => Item.forced_about fun _ => Item.forced_always fun _ => rfl
  have hlast : (lastEntry s).Forced := Item.forced_always fun _ => rfl
  simp [makePlan, h, hlast]

theorem head?_append {a b : String} {c : Char} (h : a.toList.head? = some c) :
    (a ++ b).toList.head? = some c := by
  rw [String.toList_append, List.head?_append, h, Option.some_or]

theorem head?_systemEntry : ∀ r, systemEntry.MayAsk r → r.line.toList.head? = some 'c' := by
  intro r hr
  obtain ⟨facts, rfl⟩ := Item.mayAsk_always hr
  exact head?_append (by decide)

theorem head?_refreshEntry : ∀ r, refreshEntry.MayAsk r → r.line.toList.head? = some 's' := by
  intro r hr
  obtain ⟨command, hr⟩ := Item.mayAsk_about hr
  obtain ⟨facts, rfl⟩ := Item.mayAsk_always hr
  exact head?_append (by decide)

theorem head?_jobsEntry : ∀ r, jobsEntry.MayAsk r → r.line.toList.head? = some 'n' := by
  intro r hr
  obtain ⟨facts, rfl⟩ := Item.mayAsk_always hr
  show "nproc".toList.head? = some 'n'
  decide

theorem apart_of_head? {r r' : Request} {c c' : Char} (h : r.line.toList.head? = some c)
    (h' : r'.line.toList.head? = some c') (hne : c ≠ c') : Apart r r' := by
  refine Or.inr (Or.inr fun hline => hne ?_)
  rw [hline, h'] at h
  exact (Option.some.inj h).symm

/-- **Nothing is asked twice that may be answered from memory**: three requests are made without
force, for different lines. -/
theorem pairwise_plan (s : Settings) : (plan s).Pairwise fun i j =>
    ∀ r r', i.MayAsk r → j.MayAsk r' → Apart r r' := by
  have hplan : plan s = systemEntry :: refreshEntry :: ((packagePlan ++ (budgetPlan ++ (swapPlan s ++
      (dirtyPlan ++ (directoryPlan s ++ sourcePlan s))))) ++
        (jobsEntry :: (makePlan s ++ [lastEntry s]))) := by
    simp only [plan, works, List.cons_append, List.append_assoc]
  have hstages : ∀ item ∈ packagePlan ++ (budgetPlan ++ (swapPlan s ++ (dirtyPlan ++
      (directoryPlan s ++ sourcePlan s)))), item.Forced := by
    simp only [List.forall_mem_append]
    exact ⟨forced_packagePlan, forced_budgetPlan, forced_swapPlan s, forced_dirtyPlan,
      forced_directoryPlan s, forced_sourcePlan s⟩
  have hmake := forced_makePlan s
  rw [hplan]
  generalize packagePlan ++ (budgetPlan ++ (swapPlan s ++ (dirtyPlan ++
      (directoryPlan s ++ sourcePlan s)))) = stages at hstages
  generalize makePlan s ++ [lastEntry s] = make at hmake
  have hleft : ∀ i j : Entry, i.Forced → ∀ r r', i.MayAsk r → j.MayAsk r' → Apart r r' :=
    fun _ _ hi r _ hr _ => Or.inl (hi r hr)
  have hright : ∀ i j : Entry, j.Forced → ∀ r r', i.MayAsk r → j.MayAsk r' → Apart r r' :=
    fun _ _ hj _ r' _ hr' => Or.inr (Or.inl (hj r' hr'))
  simp only [List.pairwise_cons, List.pairwise_append, List.forall_mem_cons, List.forall_mem_append]
  refine ⟨⟨?_, ?_, ?_, ?_⟩, ⟨?_, ?_, ?_⟩, ?_, ⟨?_, ?_⟩, ?_⟩
  · exact fun r r' hr hr' => apart_of_head? (head?_systemEntry r hr) (head?_refreshEntry r' hr')
      (by decide)
  · exact fun j hj => hright _ j (hstages j hj)
  · exact fun r r' hr hr' => apart_of_head? (head?_systemEntry r hr) (head?_jobsEntry r' hr')
      (by decide)
  · exact fun j hj => hright _ j (hmake j hj)
  · exact fun j hj => hright _ j (hstages j hj)
  · exact fun r r' hr hr' => apart_of_head? (head?_refreshEntry r hr) (head?_jobsEntry r' hr')
      (by decide)
  · exact fun j hj => hright _ j (hmake j hj)
  · exact List.pairwise_of_forall_mem_list fun i hi j _ => hleft i j (hstages i hi)
  · exact fun j hj => hright _ j (hmake j hj)
  · exact List.pairwise_of_forall_mem_list fun i hi j _ => hleft i j (hmake i hi)
  · exact fun i hi => ⟨hleft i _ (hstages i hi), fun j _ => hleft i j (hstages i hi)⟩

end Testbed.Install

import Testbed.Install.Packages
import Testbed.Install.Settings
import Testbed.Node.Resources

/-!
# Kernel settings that the tests depend on

Three stages, each of which leaves alone what is already in place:

* `tuneRealTime`: a real-time budget for the processes of users;
* `ensureSwap`: a swap file, if there is too little swap space;
* `tuneDirtyPages`: early write-back of changed pages.
-/

namespace Testbed.Install

open Node

/-! ## The real-time budget -/

/-- The control group of all processes, and that of the processes of users. -/
def controlGroups : List String :=
  ["/sys/fs/cgroup/cpu", "/sys/fs/cgroup/cpu/user.slice"]

/-- The file of a control group that holds its real-time period. -/
def periodFile (group : String) : String := group ++ "/cpu.rt_period_us"

/-- The file of a control group that holds its share of the period. -/
def runtimeFile (group : String) : String := group ++ "/cpu.rt_runtime_us"

/-- The file that tells whether a budget is set: the share of the processes of users. -/
def budgetFile : String := runtimeFile "/sys/fs/cgroup/cpu/user.slice"

/-- The share that the file of a budget holds. -/
def readBudget (content : String) : Except InstallError Int :=
  let value := Text.trim content.toList
  match Text.Numeral.readSigned? 64 value with
  | some share => .ok share
  | none => .error (.invalidTunable budgetFile (String.ofList value))

/-- Gives a control group 95% of each second. -/
def setBudget (group : String) : Step Unit := do
  onNode (writeFile (periodFile group) "1000000" true)
  onNode (writeFile (runtimeFile group) "950000" true)

/-- Gives real-time processes a budget where it is zero: without one, every test that asks for
real-time scheduling fails. Nodes without this kind of control groups are left alone. -/
def tuneRealTime : Step Unit := do
  if ← onNode (isPresent budgetFile false) then
    let content ← onNode (readText budgetFile true true)
    let share ← ExceptT.mk (pure (readBudget content))
    if share = 0 then controlGroups.forM setBudget

/-! ## Swap space -/

/-- The commands that make a swap file and put it to use. -/
def swapCommands (s : Settings) : List String :=
  let file := Shell.quote s.swapFile
  ["dd if=/dev/zero of=" ++ file ++ " bs=1M count=" ++ toString s.swapFileSizeMb,
    "chmod 600 " ++ file, "mkswap " ++ file, "swapon " ++ file]

/-- Adds a swap file if the node has too little swap space: some tests need a few megabytes. -/
def ensureSwap (s : Settings) : Step Unit := do
  let total ← onNode swapTotal
  if total < s.minSwapMb then
    (swapCommands s).forM fun command => onNode (perform command true)

/-! ## Changed pages -/

/-- Makes the kernel write changed pages back early: otherwise file system tests hang for minutes
while a large backlog is written. -/
def tuneDirtyPages : Step Unit := do
  onNode (setParameter "vm.dirty_ratio" "10")
  onNode (setParameter "vm.dirty_background_ratio" "5")
  onNode reloadParameters

end Testbed.Install

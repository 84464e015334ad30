import Testbed.Text.Pieces

/-!
# What to install, and where

`Settings` name the release of the test suite, where it is built and installed, and what the node
must offer. `Settings.fault?` is the first reason why they cannot work; there is none just if they are
`Settings.Sound`.
-/

namespace Testbed.Install

/-- How the test suite is installed on a node. -/
structure Settings where
  gitUrl : String := "https://github.com/linux-test-project/ltp.git"
  /-- The release that is built; it is also the version that every result carries. -/
  gitTag : String := "20190930"
  /-- The directory that the suite is installed in. -/
  installRoot : String := "/opt/ltp"
  /-- The name of the directory that the suite is built in. -/
  directoryName : String := "ltp"
  requiredDiskGb : Nat := 2
  minSwapMb : Nat := 4
  swapFile : String := "/tmp/swap"
  swapFileSizeMb : Nat := 1024
  buildTimeoutSecs : Nat := 3600
  deriving Repr, DecidableEq

/-- Why settings cannot work. -/
inductive Fault where
  | emptyUrl
  | emptyTag
  | relativeRoot (path : String)
  | badDirectoryName (name : String)
  | smallSwapFile
  | zeroBuildTimeout
  deriving Repr, DecidableEq

/-- The wording of a fault. -/
def Fault.message : Fault → String
  | .emptyUrl => "Git URL cannot be empty"
  | .emptyTag => "Git tag cannot be empty"
  | .relativeRoot path => s!"Install prefix '{path}' must be an absolute path"
  | .badDirectoryName name => s!"Invalid build directory name '{name}'"
  | .smallSwapFile => "Swap file size must cover the minimum swap size"
  | .zeroBuildTimeout => "Build timeout must be greater than 0"

/-- A path without the slashes it ends with. -/
def withoutTrailingSlashes (path : String) : String :=
  String.ofList (Text.dropRight (· == '/') path.toList)

/-- The path of a name inside a directory. -/
def inside (directory name : String) : String := withoutTrailingSlashes directory ++ "/" ++ name

namespace Settings

/-- The program that runs tests. -/
def binaryPath (s : Settings) : String := inside s.installRoot "runltp"

/-- How long a step of the build may take, in milliseconds. -/
def buildLimitMs (s : Settings) : Nat := s.buildTimeoutSecs * 1000

/-- The first reason why the settings cannot work. -/
def fault? (s : Settings) : Option Fault :=
  if s.gitUrl.isEmpty then some .emptyUrl
  else if s.gitTag.isEmpty then some .emptyTag
  else if !Text.startsWith s.installRoot "/" then some (.relativeRoot s.installRoot)
  else if s.directoryName.isEmpty || s.directoryName.toList.contains '/' then
    some (.badDirectoryName s.directoryName)
  else if s.swapFileSizeMb < s.minSwapMb then some .smallSwapFile
  else if s.buildTimeoutSecs = 0 then some .zeroBuildTimeout
  else none

/-! ## Laws -/

/-- **Settings that can work.** -/
structure Sound (s : Settings) : Prop where
  url : s.gitUrl.isEmpty = false
  tag : s.gitTag.isEmpty = false
  root : Text.startsWith s.installRoot "/" = true
  name : s.directoryName.isEmpty = false
  slashless : s.directoryName.toList.contains '/' = false
  swap : s.minSwapMb ≤ s.swapFileSizeMb
  timeout : s.buildTimeoutSecs ≠ 0

/-- A condition that is no fault is passed. -/
theorem ite_some_eq_none_iff {α : Type} {c : Prop} [Decidable c] {a : α} {rest : Option α} :
    (if c then some a else rest) = none ↔ ¬c ∧ rest = none := by
  split <;> simp_all

theorem fault?_eq_none_iff {s : Settings} : s.fault? = none ↔ s.Sound := by
  unfold fault?
  simp only [ite_some_eq_none_iff, and_true, Bool.or_eq_true, not_or, Bool.not_eq_true, Bool.not_eq_true',
    Bool.not_eq_false, Nat.not_lt]
  constructor
  · rintro ⟨hurl, htag, hroot, ⟨hname, hslashless⟩, hswap, htimeout⟩
    exact ⟨hurl, htag, hroot, hname, hslashless, hswap, htimeout⟩
  · rintro ⟨hurl, htag, hroot, hname, hslashless, hswap, htimeout⟩
    exact ⟨hurl, htag, hroot, ⟨hname, hslashless⟩, hswap, htimeout⟩

end Settings

end Testbed.Install

import Testbed.Install.Tuning

/-!
# Building and installing the test suite

`build` fetches the chosen release into an empty directory on a partition with enough space, builds
it there and installs it. `install` is the whole preparation of a node; it ends by making sure that
the program that runs tests is there.
-/

namespace Testbed.Install

open Node

/-- Runs a command in the build directory; it has to end well. -/
def runIn (directory command : String) (elevated : Bool) (limitMs : Option Nat) : Step Unit := do
  let _ ← onNode (executeChecked ⟨command, elevated, true, some directory, limitMs⟩)

/-- Makes the build directory empty and writable for the user who fetches the sources. -/
def clearDirectory (directory : String) : Step Unit := do
  if ← onNode (isPresent directory true) then onNode (removeTree directory true)
  onNode (makeDirectory directory true)
  onNode (changeModes directory "a+rwX" true)

/-- Fetches the chosen release into the build directory. -/
def fetchSources (s : Settings) (directory : String) : Step Unit := do
  let clone := "git clone " ++ Shell.quote s.gitUrl ++ " " ++ Shell.quote directory
  let _ ← onNode (executeChecked ⟨clone, false, true, none, some s.buildLimitMs⟩)
  runIn directory ("git checkout " ++ Shell.quote ("tags/" ++ s.gitTag)) false none

/-- The commands that build the suite with `jobs` jobs at a time and install it. -/
def buildCommands (s : Settings) (jobs : Nat) : List String :=
  ["autoreconf -f", "make autotools", "./configure --prefix=" ++ Shell.quote s.installRoot,
    "make -j " ++ toString jobs ++ " all",
    "make -j " ++ toString jobs ++ " install SKIP_IDCHECK=1"]

/-- Builds the suite and installs it. -/
def build (s : Settings) : Step Unit := do
  let mountPoint ← onNode (findSpace s.requiredDiskGb)
  let directory := inside mountPoint s.directoryName
  clearDirectory directory
  fetchSources s directory
  let jobs ← onNode processors
  (buildCommands s jobs).forM fun command => runIn directory command true (some s.buildLimitMs)

/-- Whether the program that runs tests is there. -/
def isInstalled (s : Settings) : Step Bool := onNode (isPresent s.binaryPath true)

/-- Prepares a node, from its packages to the installed suite. -/
def install (s : Settings) : Step Unit := do
  let system ← detectSystem
  installDependencies system
  tuneRealTime
  ensureSwap s
  tuneDirtyPages
  build s
  if !(← isInstalled s) then throw (.notInstalled s.binaryPath)

end Testbed.Install

import Testbed.Install.Error
import Testbed.Node.Files
import Testbed.Os.Family

/-!
# Packages

Finding out what system a node runs, and installing the packages that the build needs. Installing is
forced. Renewing the package index is not: once its command has run to an end on a node, however it
ended, it is not repeated there.
-/

namespace Testbed.Install

open Node

/-- A script of requests that prepares a node. -/
abbrev Step := NodeScript InstallError

/-- A step made of an operation on the node. -/
def onNode {α : Type} (operation : NodeScript NodeError α) : Step α :=
  ExceptT.adapt InstallError.node operation

/-- How long a package manager may take, in milliseconds. -/
def packageLimitMs : Nat := 1800 * 1000

/-- The system that an `os-release` text tells of. -/
def identify (osRelease : String) : Except InstallError Os.System :=
  let release := Os.Release.read osRelease
  match Os.System.ofRelease? release with
  | some system => .ok system
  | none => .error (.unsupported release.prettyName)

/-- Finds out what system the node runs. -/
def detectSystem : Step Os.System := do
  let text ← onNode osRelease
  ExceptT.mk (pure (identify text))

/-- Renews the package index, where the family needs that. -/
def refreshIndex (family : Os.Family) : Step Unit :=
  match family.refreshCommand? with
  | none => pure ()
  | some command => do
    let _ ← onNode (executeChecked ⟨command, true, false, none, some packageLimitMs⟩)

/-- Installs packages; none, without a request. -/
def installPackages (family : Os.Family) (packages : List String) : Step Unit :=
  if packages.isEmpty then pure ()
  else do
    let _ ← onNode (executeChecked
      ⟨family.installCommand packages, true, true, none, some packageLimitMs⟩)

/-- Installs all that the build needs, the tools that it runs first. -/
def installDependencies (system : Os.System) : Step Unit := do
  refreshIndex system.family
  installPackages system.family Os.buildTools
  installPackages system.family Os.commonPackages
  installPackages system.family system.packages

end Testbed.Install

import Testbed.Install.Build
import Testbed.Proofs.Node.Asking

/-!
# What an installation asks without force

A node answers from memory only what it is asked without force. Preparing a node asks four such
things: what its system is, how many processors it has, and, of two families, to renew the package
index. All else is forced, so it runs however often it is asked.

* `quietRequests`: the requests without force.
* `Ordinary`: a request that is forced, or one of these.

Results:
* `forced_tuneRealTime` and the like: the stages that ask nothing without force.
* `ordinary_install` and the like: the others ask nothing without force but the quiet requests.
-/

namespace Testbed.Install

open Node (Asks AsksOnly Forced)

/-! ## The requests without force -/

/-- Asks what the system is. -/
def systemRequest : Request := { command := "cat " ++ Shell.quote "/etc/os-release" }

/-- Asks for the number of processors. -/
def jobsRequest : Request := { command := "nproc" }

/-- Renews a package index by a command. -/
def refreshRequest (command : String) : Request :=
  ⟨command, true, false, none, some packageLimitMs⟩

/-- The requests for which a remembered result may stand in. -/
def quietRequests : List Request :=
  [systemRequest, jobsRequest, refreshRequest "apt-get update -q",
    refreshRequest "zypper --non-interactive refresh"]

/-- A request that is forced, or one of the quiet ones. -/
def Ordinary (r : Request) : Prop := Forced r ∨ r ∈ quietRequests

variable {α : Type} {s : Settings} {system : Os.System} {family : Os.Family}

theorem ordinary_of_forced {ε : Type} {x : NodeScript ε α} (h : AsksOnly Forced x) :
    AsksOnly Ordinary x := Asks.imp h fun _ => Or.inl

theorem asksOnly_onNode {P : Request → Prop} {x : NodeScript NodeError α} (h : AsksOnly P x) :
    AsksOnly P (onNode x) := Node.asksOnly_adapt h

/-! ## Stages that force all they ask -/

theorem forced_perform (command : String) (elevated : Bool) :
    AsksOnly Forced (Node.perform command elevated) := Node.asksOnly_perform rfl

theorem forced_installPackages (family : Os.Family) (packages : List String) :
    AsksOnly Forced (installPackages family packages) := by
  unfold installPackages
  split
  · exact Node.asksOnly_pure ()
  · exact Node.asksOnly_bind (asksOnly_onNode (Node.asksOnly_executeChecked rfl)) fun _ =>
      Node.asksOnly_pure ()

theorem forced_setBudget (group : String) : AsksOnly Forced (setBudget group) :=
  Node.asksOnly_bind (asksOnly_onNode (forced_perform _ _)) fun _ =>
    asksOnly_onNode (forced_perform _ _)

theorem forced_tuneRealTime : AsksOnly Forced tuneRealTime := by
  refine Node.asksOnly_bind (asksOnly_onNode (Node.asksOnly_isPresent rfl)) fun present => ?_
  cases present with
  | false => exact Node.asksOnly_pure ()
  | true =>
    refine Node.asksOnly_bind (asksOnly_onNode (Node.asksOnly_readText rfl)) fun content =>
      Node.asksOnly_bind (Node.asksOnly_mk (readBudget content)) fun share => ?_
    split
    · exact Node.asksOnly_forM fun group _ => forced_setBudget group
    · exact Node.asksOnly_pure ()

theorem forced_swapTotal : AsksOnly Forced Node.swapTotal :=
  Node.asksOnly_bind (Node.asksOnly_executeChecked rfl) fun _ => Node.asksOnly_mk _

theorem forced_ensureSwap (s : Settings) : AsksOnly Forced (ensureSwap s) := by
  refine Node.asksOnly_bind (asksOnly_onNode forced_swapTotal) fun total => ?_
  split
  · exact Node.asksOnly_forM fun command _ => asksOnly_onNode (forced_perform command true)
  · exact Node.asksOnly_pure ()

theorem forced_tuneDirtyPages : AsksOnly Forced tuneDirtyPages :=
  Node.asksOnly_bind (asksOnly_onNode (forced_perform _ _)) fun _ =>
    Node.asksOnly_bind (asksOnly_onNode (forced_perform _ _)) fun _ =>
      asksOnly_onNode (forced_perform _ _)

theorem forced_findSpace (gigabytes : Nat) : AsksOnly Forced (Node.findSpace gigabytes) :=
  Node.asksOnly_bind (Node.asksOnly_executeChecked rfl) fun _ => Node.asksOnly_mk _

theorem forced_clearDirectory (directory : String) : AsksOnly Forced (clearDirectory directory) := by
  have hmake : AsksOnly Forced (onNode (Node.makeDirectory directory true) >>= fun _ =>
      onNode (Node.changeModes directory "a+rwX" true)) :=
    Node.asksOnly_bind (asksOnly_onNode (forced_perform _ _)) fun _ =>
      asksOnly_onNode (forced_perform _ _)
  refine Node.asksOnly_bind (asksOnly_onNode (Node.asksOnly_isPresent rfl)) fun present => ?_
  cases present with
  | false => exact hmake
  | true => exact Node.asksOnly_bind (asksOnly_onNode (forced_perform _ _)) fun _ => hmake

theorem forced_runIn (directory command : String) (elevated : Bool) (limitMs : Option Nat) :
    AsksOnly Forced (runIn directory command elevated limitMs) :=
  Node.asksOnly_bind (asksOnly_onNode (Node.asksOnly_executeChecked rfl)) fun _ =>
    Node.asksOnly_pure ()

theorem forced_fetchSources (s : Settings) (directory : String) :
    AsksOnly Forced (fetchSources s directory) :=
  Node.asksOnly_bind (asksOnly_onNode (Node.asksOnly_executeChecked rfl)) fun _ =>
    forced_runIn _ _ _ _

theorem forced_buildCommands (s : Settings) (directory : String) (jobs : Nat) :
    AsksOnly Forced ((buildCommands s jobs).forM fun command =>
      runIn directory command true (some s.buildLimitMs)) :=
  Node.asksOnly_forM fun _ _ => forced_runIn _ _ _ _

theorem forced_isInstalled (s : Settings) : AsksOnly Forced (isInstalled s) :=
  asksOnly_onNode (Node.asksOnly_isPresent rfl)

/-! ## Stages that ask something without force -/

theorem ordinary_detectSystem : AsksOnly Ordinary detectSystem := by
  have hsystem : Ordinary systemRequest := Or.inr (by simp [quietRequests])
  exact Node.asksOnly_bind (asksOnly_onNode (Node.asksOnly_readText hsystem)) fun _ =>
    Node.asksOnly_mk _

theorem ordinary_refreshIndex (family : Os.Family) : AsksOnly Ordinary (refreshIndex family) := by
  have hrefresh : ∀ command, family.refreshCommand? = some command →
      Ordinary (refreshRequest command) := by
    intro command h
    cases family with
    | fedora => cases h
    | mariner => cases h
    | debian =>
      cases h
      exact Or.inr (by simp [quietRequests])
    | suse =>
      cases h
      exact Or.inr (by simp [quietRequests])
  unfold refreshIndex
  split
  · exact Node.asksOnly_pure ()
  · exact Node.asksOnly_bind
      (asksOnly_onNode (Node.asksOnly_executeChecked (hrefresh _ ‹_›))) fun _ => Node.asksOnly_pure ()

theorem ordinary_installDependencies (system : Os.System) :
    AsksOnly Ordinary (installDependencies system) := by
  have hpackages := fun packages => ordinary_of_forced (forced_installPackages system.family packages)
  exact Node.asksOnly_bind (ordinary_refreshIndex system.family) fun _ =>
    Node.asksOnly_bind (hpackages _) fun _ => Node.asksOnly_bind (hpackages _) fun _ => hpackages _

theorem ordinary_processors : AsksOnly Ordinary Node.processors := by
  have hjobs : Ordinary jobsRequest := Or.inr (by simp [quietRequests])
  exact Node.asksOnly_bind (Node.asksOnly_executeChecked hjobs) fun _ => Node.asksOnly_mk _

theorem ordinary_build (s : Settings) : AsksOnly Ordinary (build s) :=
  Node.asksOnly_bind (asksOnly_onNode (ordinary_of_forced (forced_findSpace _))) fun _ =>
    Node.asksOnly_bind (ordinary_of_forced (forced_clearDirectory _)) fun _ =>
      Node.asksOnly_bind (ordinary_of_forced (forced_fetchSources s _)) fun _ =>
        Node.asksOnly_bind (asksOnly_onNode ordinary_processors) fun jobs =>
          ordinary_of_forced (forced_buildCommands s _ jobs)

/-- **An installation asks nothing without force** but the quiet requests. -/
theorem ordinary_install (s : Settings) : AsksOnly Ordinary (install s) := by
  refine Node.asksOnly_bind ordinary_detectSystem fun system =>
    Node.asksOnly_bind (ordinary_installDependencies system) fun _ =>
      Node.asksOnly_bind (ordinary_of_forced forced_tuneRealTime) fun _ =>
        Node.asksOnly_bind (ordinary_of_forced (forced_ensureSwap s)) fun _ =>
          Node.asksOnly_bind (ordinary_of_forced forced_tuneDirtyPages) fun _ =>
            Node.asksOnly_bind (ordinary_build s) fun _ =>
              Node.asksOnly_bind (ordinary_of_forced (forced_isInstalled s)) fun present => ?_
  cases present with
  | true => exact Node.asksOnly_pure ()
  | false => exact Node.asksOnly_mk _

end Testbed.Install

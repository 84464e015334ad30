import Testbed.Install.Settings
import Testbed.Proofs.Text.Stripped

/-!
# The place that a path names

A path is resolved by its text alone: slashes that follow one another count as one, `.` stays, `..`
goes up, and any other name goes down. Above the root there is nothing; a path that does not start
there may go up from wherever it starts.

* `Place`: where a path leads, and `Place.enter` one step on the way.
* `resolve`: the place of a path.
* `Place.IsChildOf`: a place right below another.

Results:
* `resolve_inside`: a name inside a directory is one more step.
* `enter_isChildOf_iff`: the step leads right below, unless it stays or goes up.
-/

namespace Testbed.Node

open Install (inside withoutTrailingSlashes)
open Text (dropRight)

/-- Where a path leads: whether it starts at the root, how many steps it goes up from its start, and
the names on the way down from there. -/
structure Place where
  rooted : Bool
  up : Nat := 0
  names : List (List Char) := []
  deriving Repr, DecidableEq

namespace Place

variable {place : Place} {name : List Char}

/-- The place above. -/
def above (place : Place) : Place :=
  if place.names ≠ [] then { place with names := place.names.dropLast }
  else if place.rooted then place
  else { place with up := place.up + 1 }

/-- One step on the way. -/
def enter (place : Place) (name : List Char) : Place :=
  if name = [] ∨ name = ['.'] then place
  else if name = ['.', '.'] then place.above
  else { place with names := place.names ++ [name] }

/-- The place is right below another. -/
def IsChildOf (place parent : Place) : Prop :=
  ∃ name, place = { parent with names := parent.names ++ [name] }

theorem length_names_above (place : Place) : place.above.names.length ≤ place.names.length := by
  unfold above
  split
  · rw [List.length_dropLast]
    exact Nat.sub_le _ _
  · split <;> exact Nat.le_refl _

/-- **A step leads right below**, unless it stays or goes up. -/
theorem enter_isChildOf_iff :
    (place.enter name).IsChildOf place ↔ name ≠ [] ∧ name ≠ ['.'] ∧ name ≠ ['.', '.'] := by
  have hlonger : ∀ p : Place, p.names.length ≤ place.names.length → ¬ p.IsChildOf place := by
    rintro p hp ⟨last, rfl⟩
    rw [List.length_append] at hp
    exact Nat.not_succ_le_self _ hp
  unfold enter
  split
  · rename_i hstay
    refine ⟨fun h => absurd h (hlonger _ (Nat.le_refl _)), fun h => ?_⟩
    exact absurd hstay (not_or.mpr ⟨h.1, h.2.1⟩)
  · rename_i hstay
    obtain ⟨hempty, hdot⟩ := not_or.mp hstay
    split
    · rename_i hup
      exact ⟨fun h => absurd h (hlonger _ place.length_names_above), fun h => absurd hup h.2.2⟩
    · rename_i hup
      exact ⟨fun _ => ⟨hempty, hdot, hup⟩, fun _ => ⟨name, rfl⟩⟩

end Place

/-- **The place that a path names.** -/
def resolve (path : String) : Place :=
  (path.toList.splitOn '/').foldl Place.enter { rooted := Text.startsWith path "/" }

/-! ## Slashes at the end -/

variable {cs slashes : List Char} {place : Place}

/-- Slashes at the end of a path are no steps. -/
theorem foldl_enter_append_slashes (h : ∀ c ∈ slashes, (c == '/') = true) :
    ((cs ++ slashes).splitOn '/').foldl Place.enter place =
      (cs.splitOn '/').foldl Place.enter place := by
  induction slashes generalizing cs with
  | nil => rw [List.append_nil]
  | cons c slashes ih =>
    obtain ⟨hc, hslashes⟩ := List.forall_mem_cons.mp h
    have hone := @ih (cs ++ [c]) hslashes
    rw [List.append_assoc, List.singleton_append] at hone
    have hempty : (cs ++ [c]).splitOn '/' = cs.splitOn '/' ++ [[]] :=
      List.splitOn_append_cons_of_beq cs [] hc
    rw [hone, hempty, List.foldl_append]
    rfl

/-- **A name inside a directory is one more step.** -/
theorem resolve_inside {directory name : String} (hdirectory : directory ≠ "")
    (hname : '/' ∉ name.toList) :
    resolve (inside directory name) = (resolve directory).enter name.toList := by
  have hinside : (inside directory name).toList =
      dropRight (· == '/') directory.toList ++ '/' :: name.toList := by
    simp [inside, withoutTrailingSlashes]
  have hpiece : name.toList.splitOn '/' = [name.toList] := List.splitOn_eq_singleton hname
  obtain ⟨slashes, hcut, hslashes⟩ := Text.exists_dropRight_append (· == '/') directory.toList
  generalize dropRight (· == '/') directory.toList = kept at hinside hcut
  have hrooted : Text.startsWith (inside directory name) "/" = Text.startsWith directory "/" := by
    rw [Text.startsWith, Text.startsWith, hinside, hcut]
    cases kept with
    | cons c cs => simp [List.isPrefixOf]
    | nil =>
      obtain ⟨c, cs, hcs⟩ := List.exists_cons_of_ne_nil fun hnil : slashes = [] =>
        hdirectory (String.toList_eq_nil_iff.mp (hcut.trans hnil))
      have hc := hslashes c (hcs ▸ List.mem_cons_self)
      rw [hcs, beq_iff_eq.mp hc]
      rfl
  rw [resolve, resolve, hrooted, hinside, hcut, foldl_enter_append_slashes hslashes,
    List.splitOn_append_cons_self, hpiece, List.foldl_append]
  rfl

example : resolve "/mnt//disk/./a/../ltp/" =
    { rooted := true, names := ["mnt".toList, "disk".toList, "ltp".toList] } := by decide +kernel

end Testbed.Node

import Testbed.Install.Packages
import Testbed.Proofs.Os.Respelling

/-!
# Finding out what system a node runs

The packages that are installed, and the program that installs them, hang on the family of the
system, and that on two of the fields of its description.

* `Belongs`: the system is, or is derived from, a distribution of the family.
* `IsFirst`: the family that is picked.

Results:
* `ofRelease?_eq_some_iff`, `ofRelease?_eq_none_iff`: which family a description has.
* `identify_ok_iff`, `identify_error_iff`: the answer for a text.

Headline: **`detection_rests_on_last_values`**: what a text says about the system is what its last
assignments say, however it is spelled, and that decides the answer.
-/

namespace Testbed.Install

open Os (Alike Describes Family Release System)

variable {release : Release} {family : Family} {text : String} {system : System} {error : InstallError}

/-- The names of the distributions of a family. -/
def names : Family → List String
  | .mariner => ["mariner", "azurelinux"]
  | .debian => ["debian", "ubuntu"]
  | .suse => ["sles", "suse", "opensuse", "opensuse-leap", "opensuse-tumbleweed", "sle_hpc"]
  | .fedora => ["fedora", "rhel", "centos", "rocky", "almalinux", "ol"]

/-- The system is, or is derived from, a distribution of the family. -/
def Belongs (release : Release) (family : Family) : Prop :=
  release.id ∈ names family ∨ ∃ like ∈ release.idLike, like ∈ names family

/-- **The family that is picked**: of those that the system belongs to, the first in this order. -/
def IsFirst (release : Release) (family : Family) : Prop :=
  Belongs release family ∧ ∃ earlier later,
    [Family.mariner, .debian, .suse, .fedora] = earlier ++ family :: later ∧
      ∀ other ∈ earlier, ¬ Belongs release other

theorem isLike_iff : release.isLike family.distributions = true ↔ Belongs release family := by
  have hnames : family.distributions = names family := by cases family <;> rfl
  unfold Release.isLike Belongs
  rw [hnames]
  simp only [Bool.or_eq_true, List.contains_iff_mem, List.any_eq_true]

theorem ofRelease?_eq_some_iff : Family.ofRelease? release = some family ↔ IsFirst release family := by
  unfold Family.ofRelease? IsFirst
  rw [List.find?_eq_some_iff_append, isLike_iff]
  refine and_congr_right fun _ => exists_congr fun earlier => exists_congr fun later => ?_
  refine and_congr_right fun _ => forall₂_congr fun other _ => ?_
  rw [← isLike_iff, Bool.not_eq_true', Bool.not_eq_true]

/-- Every family is tried. -/
theorem ofRelease?_eq_none_iff : Family.ofRelease? release = none ↔ ∀ family, ¬ Belongs release family := by
  unfold Family.ofRelease?
  rw [List.find?_eq_none]
  constructor
  · intro h family hbelongs
    have htried : family ∈ Family.searchOrder := by cases family <;> decide
    exact h family htried (isLike_iff.mpr hbelongs)
  · intro h family _ hlike
    exact h family (isLike_iff.mp hlike)

theorem identify_of_some (h : Family.ofRelease? (Release.read text) = some family) :
    identify text = .ok ⟨family, Release.read text⟩ := by
  unfold identify System.ofRelease?
  generalize Release.read text = release at h ⊢
  simp only [h, Option.map_some]

theorem identify_of_none (h : Family.ofRelease? (Release.read text) = none) :
    identify text = .error (.unsupported (Release.read text).prettyName) := by
  unfold identify System.ofRelease?
  generalize Release.read text = release at h ⊢
  simp only [h, Option.map_none]

theorem identify_ok_iff : identify text = .ok system ↔
    system.release = Release.read text ∧ IsFirst (Release.read text) system.family := by
  rw [← ofRelease?_eq_some_iff]
  obtain ⟨family', release'⟩ := system
  cases h : Family.ofRelease? (Release.read text) with
  | none => simp [identify_of_none h]
  | some family =>
    simp only [identify_of_some h, Except.ok.injEq, System.mk.injEq, Option.some.injEq]
    exact ⟨fun ⟨hfamily, hrelease⟩ => ⟨hrelease.symm, hfamily⟩,
      fun ⟨hrelease, hfamily⟩ => ⟨hfamily, hrelease.symm⟩⟩

theorem identify_error_iff : identify text = .error error ↔
    (∀ family, ¬ Belongs (Release.read text) family) ∧
      error = .unsupported (Release.read text).prettyName := by
  rw [← ofRelease?_eq_none_iff]
  cases h : Family.ofRelease? (Release.read text) with
  | none => simp [identify_of_none h, eq_comm]
  | some family => simp [identify_of_some h]

/-- A family is found if there is one. -/
theorem exists_identify_ok_iff :
    (∃ system, identify text = .ok system) ↔ ∃ family, Belongs (Release.read text) family := by
  constructor
  · rintro ⟨system, hsystem⟩
    exact ⟨system.family, (identify_ok_iff.mp hsystem).2.1⟩
  · rintro ⟨family, hbelongs⟩
    cases hanswer : identify text with
    | ok system => exact ⟨system, rfl⟩
    | error error => exact absurd hbelongs ((identify_error_iff.mp hanswer).1 family)

/-- **Detection rests on the last value of each field.** A text says what its last assignments to the
four keys say, and says the same in every other spelling. The system is known if it, or one that it
is derived from, is a distribution of one of the families; the first of these in order is picked.
Otherwise the answer is that the system is not supported, under its name to show. -/
theorem detection_rests_on_last_values :
    (∀ text release, Describes text release ↔ Release.read text = release) ∧
    (∀ text text', Alike text text' →
      Release.read text = Release.read text' ∧ identify text = identify text') ∧
    ∀ text release, Describes text release →
      (∀ system, identify text = .ok system ↔
        system.release = release ∧ IsFirst release system.family) ∧
      (∀ error, identify text = .error error ↔
        (∀ family, ¬ Belongs release family) ∧ error = .unsupported release.prettyName) ∧
      ((∃ system, identify text = .ok system) ↔ ∃ family, Belongs release family) := by
  refine ⟨fun text release => Os.describes_iff, ?_, ?_⟩
  · intro text text' halike
    have hread : Release.read text = Release.read text' := Os.read_of_alike halike
    refine ⟨hread, ?_⟩
    unfold identify
    rw [hread]
  · intro text release hdescribes
    obtain rfl := Os.describes_iff.mp hdescribes
    exact ⟨fun _ => identify_ok_iff, fun _ => identify_error_iff, exists_identify_ok_iff⟩

example : (identify "# vendor\r\n ID_LIKE = \"Debian\"\nID=arch\nID='Mint'\n").map (·.family) = .ok .debian := by
  decide +kernel

end Testbed.Install

import Mathlib.Algebra.Group.Nat.Defs
import Testbed.Os.Family
import Testbed.Proofs.Text.Numeral

/-!
# Package managers and what they install

The commands of the package managers and the names of the packages, spelled out family by family.

* `Manager`: how the packages of a family are installed.
* `HasNtp`: a system on which the packages of its family include `ntp` and not `db4-utils`.
* `System.packageNames`: the packages of its family that a system is given.

Results:
* `installCommand_eq`, `refreshCommand?_eq`: the commands of a family are those of its manager.
* `intercalate_packages`: a system is given the packages named here.
-/

namespace Testbed.Os

open Text.Numeral (Counts)

/-! ## Package managers -/

/-- How packages are installed. -/
structure Manager where
  /-- The command that installs packages, up to their names. -/
  install : String
  /-- The command that renews the index of packages, where that has to be done before. -/
  refresh? : Option String

/-- **The package manager of a family.** -/
def Family.manager : Family → Manager
  | .fedora => ⟨"yum install -y", none⟩
  | .debian => ⟨"DEBIAN_FRONTEND=noninteractive apt-get install -y -q", some "apt-get update -q"⟩
  | .suse => ⟨"zypper --non-interactive install", some "zypper --non-interactive refresh"⟩
  | .mariner => ⟨"tdnf install -y", none⟩

theorem installCommand_eq (family : Family) (packages : List String) :
    family.installCommand packages =
      family.manager.install ++ " " ++ String.intercalate " " packages := by
  unfold Family.installCommand Family.manager
  cases family <;> rfl

theorem refreshCommand?_eq (family : Family) : family.refreshCommand? = family.manager.refresh? := by
  cases family <;> rfl

/-! ## Packages -/

/-- A version that begins with a number of at least 8, which ends at a point or with the version. -/
def FromEight (version : String) : Prop :=
  ∃ major rest number, version.toList = major ++ rest ∧ '.' ∉ major ∧ (∀ c ∈ rest.head?, c = '.') ∧
    Counts major number ∧ 8 ≤ number ∧ number < 2 ^ 32

/-- **A system that is given `ntp`** and not `db4-utils`, if it is of the family that has both: an
enterprise distribution from version 8 on. -/
def HasNtp (release : Release) : Prop :=
  release.id ∈ ["rhel", "centos", "rocky", "almalinux", "ol"] ∧ FromEight release.versionId

theorem fromEight_iff {system : System} :
    system.majorVersion?.any (8 ≤ ·) = true ↔ FromEight system.release.versionId := by
  unfold System.majorVersion? FromEight
  generalize system.release.versionId.toList = version
  simp only [Option.any_eq_true, Text.Numeral.read?_eq_some_iff (show 0 < Text.Numeral.bound 32 by decide),
    decide_eq_true_eq]
  constructor
  · rintro ⟨number, ⟨hcounts, hlt⟩, hle⟩
    refine ⟨_, version.dropWhile (· != '.'), number, List.takeWhile_append_dropWhile.symm, ?_, ?_,
      hcounts, hle, hlt⟩
    · intro hmem
      exact absurd (List.all_eq_true.mp List.all_takeWhile '.' hmem) (by decide)
    · intro c hc
      have hstop := List.head?_dropWhile_not (· != '.') version
      rw [hc] at hstop
      simpa using hstop
  · rintro ⟨major, rest, number, rfl, hmajor, hrest, hcounts, hle, hlt⟩
    have hinside : ∀ c ∈ major, (c != '.') = true := fun c hc =>
      bne_iff_ne.mpr fun hpoint => hmajor (hpoint ▸ hc)
    have hbehind : rest.takeWhile (· != '.') = [] := by
      cases rest with
      | nil => rfl
      | cons c rest =>
        rw [hrest c rfl]
        rfl
    rw [List.takeWhile_append_of_pos hinside, hbehind, List.append_nil]
    exact ⟨number, ⟨hcounts, hlt⟩, hle⟩

theorem hasNtp_iff {system : System} :
    (system.isEnterprise && system.majorVersion?.any (8 ≤ ·)) = true ↔ HasNtp system.release := by
  unfold System.isEnterprise System.enterpriseDistributions HasNtp
  rw [Bool.and_eq_true, fromEight_iff, List.contains_iff_mem]

instance (release : Release) : Decidable (HasNtp release) :=
  decidable_of_iff _ (@hasNtp_iff ⟨.fedora, release⟩)

/-- **The packages of its family** that a system is given. -/
def System.packageNames (system : System) : String :=
  match system.family with
  | .fedora =>
    "libaio-devel libattr libcap-devel libdb " ++ if HasNtp system.release then "ntp" else "db4-utils"
  | .debian =>
    "ntp libaio-dev libattr1 libcap-dev keyutils libdb4.8 libberkeleydb-perl expect dh-autoreconf gdb " ++
      "libnuma-dev quota genisoimage db-util unzip exfat-utils"
  | .suse => "ntp git-core db48-utils libaio-devel libattr1 libcap-progs libdb-4_8 perl-BerkeleyDB"
  | .mariner => "kernel-headers binutils glibc-devel zlib-devel"

theorem intercalate_packages (system : System) :
    String.intercalate " " system.packages = system.packageNames := by
  unfold System.packages System.packageNames
  cases system.family with
  | fedora =>
    by_cases hntp : HasNtp system.release
    · rw [if_pos (hasNtp_iff.mpr hntp), if_pos hntp]
      decide +kernel
    · rw [if_neg (mt hasNtp_iff.mp hntp), if_neg hntp]
      decide +kernel
  | debian | suse | mariner => rfl

end Testbed.Os

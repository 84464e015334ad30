import Testbed.Os.Release
import Testbed.Text.Numeral

/-!
# Distribution families

A family of distributions shares a package manager. `Family.ofRelease?` finds the family of a
system, `System.packages` are the packages a system needs to build the test suite.
-/

namespace Testbed.Os

/-- Distributions that share a package manager. -/
inductive Family where
  | fedora
  | debian
  | suse
  | mariner
  deriving Repr, DecidableEq

namespace Family

/-- The families in the order in which a system is tried against them. -/
def searchOrder : List Family := [.mariner, .debian, .suse, .fedora]

/-- The name of the family. -/
def name : Family → String
  | .fedora => "fedora"
  | .debian => "debian"
  | .suse => "suse"
  | .mariner => "mariner"

/-- The distributions of the family. -/
def distributions : Family → List String
  | .mariner => ["mariner", "azurelinux"]
  | .debian => ["debian", "ubuntu"]
  | .suse => ["sles", "suse", "opensuse", "opensuse-leap", "opensuse-tumbleweed", "sle_hpc"]
  | .fedora => ["fedora", "rhel", "centos", "rocky", "almalinux", "ol"]

/-- The family of a system: the first that has the system, or one it is derived from. -/
def ofRelease? (release : Release) : Option Family :=
  searchOrder.find? fun family => release.isLike family.distributions

/-- The command that installs packages. -/
def installCommand (family : Family) (packages : List String) : String :=
  let names := String.intercalate " " packages
  match family with
  | .fedora => "yum install -y " ++ names
  | .debian => "DEBIAN_FRONTEND=noninteractive apt-get install -y -q " ++ names
  | .suse => "zypper --non-interactive install " ++ names
  | .mariner => "tdnf install -y " ++ names

/-- The command that renews the package index, where one is needed. -/
def refreshCommand? : Family → Option String
  | .debian => some "apt-get update -q"
  | .suse => some "zypper --non-interactive refresh"
  | .fedora | .mariner => none

end Family

/-- A system whose family is known. -/
structure System where
  family : Family
  release : Release
  deriving Repr, DecidableEq

namespace System

/-- Distributions with the release cycle of Red Hat Enterprise Linux. -/
def enterpriseDistributions : List String := ["rhel", "centos", "rocky", "almalinux", "ol"]

/-- Whether the system is an enterprise distribution. -/
def isEnterprise (system : System) : Bool :=
  enterpriseDistributions.contains system.release.id

/-- The number before the first point of the version. -/
def majorVersion? (system : System) : Option Nat :=
  let version := system.release.versionId.toList
  Text.Numeral.read? (Text.Numeral.bound 32) (version.takeWhile (· != '.'))

/-- The packages of the family that the test suite is built with. -/
def packages (system : System) : List String :=
  match system.family with
  | .fedora =>
    ["libaio-devel", "libattr", "libcap-devel", "libdb"] ++
      if system.isEnterprise && system.majorVersion?.any (8 ≤ ·) then ["ntp"] else ["db4-utils"]
  | .debian =>
    ["ntp", "libaio-dev", "libattr1", "libcap-dev", "keyutils", "libdb4.8", "libberkeleydb-perl",
      "expect", "dh-autoreconf", "gdb", "libnuma-dev", "quota", "genisoimage", "db-util", "unzip",
      "exfat-utils"]
  | .suse =>
    ["ntp", "git-core", "db48-utils", "libaio-devel", "libattr1", "libcap-progs", "libdb-4_8",
      "perl-BerkeleyDB"]
  | .mariner => ["kernel-headers", "binutils", "glibc-devel", "zlib-devel"]

/-- The system that a description tells of, if its family is known. -/
def ofRelease? (release : Release) : Option System :=
  (Family.ofRelease? release).map fun family => ⟨family, release⟩

end System

/-- Tools that the build itself runs. -/
def buildTools : List String := ["git", "gcc", "make"]

/-- Packages that every family needs for the build. -/
def commonPackages : List String := ["m4", "bison", "flex", "psmisc", "autoconf", "automake"]

end Testbed.Os

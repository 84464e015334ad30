import Testbed.Node.Files
import Testbed.Text.Line
import Testbed.Text.Numeral

/-!
# Resources of a node

Processors, swap space, mounted file systems and kernel parameters. Each is read from the output of
one command; the readers of these outputs are functions of their own (`readProcessors`,
`readSwapTotal`, `readMounts`).
-/

namespace Testbed.Node

open Text

/-- Bound of the numbers that commands report. -/
def wordLimit : Nat := Numeral.bound 64

/-! ## Processors -/

/-- The number in the output of `nproc`. -/
def readProcessors (output : String) : Except NodeError Nat :=
  match Numeral.read wordLimit (trim output.toList) with
  | .ok n => .ok n
  | .error fault => .error (.unexpectedOutput "nproc" fault.message)

/-- How many processors the node has; it may be a remembered number. -/
def processors : NodeScript NodeError Nat := do
  let output ← executeChecked { command := "nproc" }
  ExceptT.mk (pure (readProcessors output.stdout))

/-! ## Swap space -/

/-- What follows `Swap:` in a line that starts with it, blanks aside. -/
def swapRow? (line : List Char) : Option (List Char) :=
  let label := "Swap:".toList
  let row := trimLeft line
  if label.isPrefixOf row then some (row.drop label.length) else none

/-- The total in the first row for swap space in the output of `free -m`. -/
def readSwapTotal (output : String) : Except NodeError Nat :=
  match (lines output.toList).findSome? swapRow? with
  | none => .error (.unexpectedOutput "free -m" "Failed to get swap size")
  | some row =>
    let total := (words row).headD []
    match Numeral.read? wordLimit total with
    | some n => .ok n
    | none =>
      .error (.unexpectedOutput "free -m"
        ("invalid swap total '" ++ String.ofList total ++ "'"))

/-- The swap space of the node in MiB. -/
def swapTotal : NodeScript NodeError Nat := do
  let output ← executeChecked (change "free -m" false)
  ExceptT.mk (pure (readSwapTotal output.stdout))

/-! ## File systems -/

/-- A mounted file system. -/
structure Mount where
  filesystem : String
  /-- The free space in KiB. -/
  availableKb : Nat
  mountPoint : String
  deriving Repr, DecidableEq

/-- The mount that a line of `df -P -k` reports: none for a line of fewer than six fields. All that
follows the fifth field is the mount point. -/
def readMount (line : List Char) : Except NodeError (Option Mount) :=
  match (words line).map String.ofList with
  | filesystem :: _ :: _ :: available :: _ :: point :: more =>
    match Numeral.read? wordLimit available.toList with
    | some n => .ok (some ⟨filesystem, n, String.intercalate " " (point :: more)⟩)
    | none =>
      .error (.unexpectedOutput "df -P -k"
        ("invalid available size in line '" ++ String.ofList line ++ "'"))
  | _ => .ok none

/-- The mounts in the output of `df -P -k`, whose first line is a heading. -/
def readMounts (output : String) : Except NodeError (List Mount) := do
  let rows ← ((lines output.toList).drop 1).mapM readMount
  pure (rows.filterMap id)

/-- File systems that hold no files on a disk. -/
def pseudoFilesystems : List String := ["tmpfs", "devtmpfs", "udev", "overlay", "none", "shm"]

/-- Directories that belong to the system: nothing is put into file systems mounted there. -/
def systemDirectories : List String := ["/boot", "/dev", "/proc", "/run", "/sys", "/snap"]

/-- Whether the mount is none to put files into. -/
def Mount.isPseudo (m : Mount) : Bool :=
  pseudoFilesystems.contains m.filesystem ||
    systemDirectories.any fun d => m.mountPoint == d || startsWith m.mountPoint (d ++ "/")

/-- So many GiB in KiB, both numbers of 64 bits. -/
def kibibytes (gigabytes : Nat) : UInt64 := UInt64.ofNat gigabytes * 1024 * 1024

/-- Whether the mount is a place for files with the given free space in GiB. -/
def Mount.hasSpace (m : Mount) (gigabytes : Nat) : Bool :=
  (kibibytes gigabytes).toNat ≤ m.availableKb && !m.isPseudo

/-- The first mount point in the output of `df -P -k` with enough free space. -/
def chooseMountPoint (gigabytes : Nat) (output : String) : Except NodeError String := do
  let mounts ← readMounts output
  match mounts.find? (·.hasSpace gigabytes) with
  | some m => pure m.mountPoint
  | none =>
    throw (.unexpectedOutput "df -P -k"
      ("no partition with " ++ toString gigabytes ++ "GB free space"))

/-- The first mount point of the node with the given free space in GiB. -/
def findSpace (gigabytes : Nat) : NodeScript NodeError String := do
  let output ← executeChecked (change "df -P -k" false)
  ExceptT.mk (pure (chooseMountPoint gigabytes output.stdout))

/-! ## Kernel parameters -/

/-- Sets a kernel parameter. -/
def setParameter (key value : String) : NodeScript NodeError Unit :=
  perform ("sysctl -w " ++ Shell.quote (key ++ "=" ++ value)) true

/-- Makes the node read its configured kernel parameters again. -/
def reloadParameters : NodeScript NodeError Unit := perform "sysctl -p" true

end Testbed.Node

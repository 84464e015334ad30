import Testbed.Proofs.Install.Remembered
import Testbed.Proofs.Node.Commands
import Testbed.Proofs.Node.Place
import Testbed.Proofs.Text.Numeral

/-!
# What the build changes with elevated rights

The build removes a directory with all it holds, makes it anew and opens it to everyone, all with
elevated rights. The directory has a name from the settings, and lies in the mount point with enough
space. Valid settings have a name without a slash, but it may be `.` or `..`.

* `Holds`, `Runs`: the commands of a line, and those that a request makes a node run.
* `treeChanges`: the commands that change a directory with all it holds.
* `Unchanging`, `Confined`: a request changes no directory, or no other than one.

Results:
* `confined_buildIn`: all that the build does in its directory changes no other.
* `ne_empty_of_chooseMountPoint`: a mount point has a name.

Headline: **`build_changes`**: where the directory lies that the build changes. It lies right below
the mount point just if its name is neither `.` nor `..`; `build_opens_parent` is a build that opens
what lies above the mount point.
-/

namespace Testbed

/-! ## The commands of a request -/

namespace Shell

/-- A command of a line: its first, or one behind `&&`. -/
inductive Holds : String → Command → Prop
  | first {line : String} {command : Command} {rest : Option String}
      (h : reading line = some (command, rest)) : Holds line command
  | next {line rest : String} {command later : Command}
      (h : reading line = some (command, some rest)) (hlater : Holds rest later) : Holds line later

/-- A command that a request makes a node run, as the shell reads its line. -/
inductive Runs (r : Request) : Command → Prop
  | first {command : Command} {rest : Option String}
      (h : understood r.elevated r.line = some (command, rest)) : Runs r command
  | next {command later : Command} {rest : String}
      (h : understood r.elevated r.line = some (command, some rest)) (hlater : Holds rest later) :
      Runs r later

variable {line text : String} {command later : Command} {r : Request}

theorem holds_of_runs (h : Runs r command) : Holds r.body command := by
  cases h with
  | first h => exact .first ((understood_line r).symm.trans h)
  | next h hlater => exact .next ((understood_line r).symm.trans h) hlater

theorem eq_of_holds (hread : reading line = some (command, none)) (h : Holds line later) :
    later = command := by
  cases h with
  | first h =>
    cases hread.symm.trans h
    rfl
  | next h => cases hread.symm.trans h

/-- A blank in front of a command means nothing. -/
theorem reading_blank (text : String) : reading (" " ++ text) = reading text := by
  have hscan : scan (.bare none) (" " ++ text).toList = scan (.bare none) text.toList := by
    have hcons : (" " ++ text).toList = ' ' :: text.toList := by simp
    rw [hcons, scan_blank]
    cases scan (.bare none) text.toList <;> rfl
  rw [reading, reading, hscan]

/-- Digits need no quotes. -/
theorem quote_toString (n : Nat) : quote (toString n) = toString n := by
  have hdigits := (Text.Numeral.isDigits_repr n).1
  have hplain : (!n.repr.toList.isEmpty && n.repr.toList.all isPlain) = true := by
    rw [Bool.and_eq_true, Bool.not_eq_true', List.isEmpty_eq_false_iff, List.all_eq_true]
    refine ⟨hdigits.1, fun c hc => ?_⟩
    simp [isPlain, Char.isAlphanum, hdigits.2 c hc]
  show String.ofList (quoteChars n.repr.toList) = n.repr
  rw [quoteChars, if_pos hplain, String.ofList_toList]

/-- An option with a text behind it that is quoted. -/
theorem reading_configure (path : String) :
    reading ("./configure --prefix=" ++ quote path) =
      some (⟨["./configure", "--prefix=" ++ path], []⟩, none) := by
  have htext : ("./configure --prefix=" ++ quote path).toList =
      "./configure".toList ++ ' ' :: ("--prefix=".toList ++ (quoteChars path.toList ++ [])) := by
    simp [quote]
  have hscan : scan (.bare none) ("./configure --prefix=" ++ quote path).toList =
      some ([.word "./configure".toList, .word ("--prefix=".toList ++ path.toList)], none) := by
    rw [htext, scan_word (by decide) (List.all_eq_true.mp (by decide)), scan_blank,
      scan_word (by decide) (List.all_eq_true.mp (by decide)), scan_quoteChars]
    rfl
  have hcommand : Command.ofTokens
      [.word "./configure".toList, .word ("--prefix=".toList ++ path.toList)] =
      some ⟨["./configure", "--prefix=" ++ path], []⟩ := by
    rw [← String.toList_append]
    simp only [Command.ofTokens, String.ofList_toList]
    rfl
  exact reading_of_scan "./configure" (by decide) hscan hcommand rfl

/-- Making a goal, and others, in several jobs. -/
theorem spelled_make (jobs : Nat) (goal : String) (more : List String) :
    spelled ("make" :: "-j" :: toString jobs :: goal :: more) =
      "make -j " ++ toString jobs ++ (" " ++ spelled (goal :: more)) := by
  have hmake : quoteChars "make".toList = "make".toList := by decide
  have hflag : quoteChars "-j".toList = "-j".toList := by decide
  have hjobs : quoteChars (toString jobs).toList = (toString jobs).toList := by
    rw [← String.toList_ofList (l := quoteChars (toString jobs).toList)]
    exact congrArg String.toList (quote_toString jobs)
  rw [← String.toList_inj, toList_spelled_cons, toList_spelled_cons, toList_spelled_cons, hmake,
    hflag, hjobs]
  simp

end Shell

/-! ## Changes of one directory -/

namespace Install

open Node (Asks AsksOnly change findSpace isPresent resolve watched)
open Shell (Runs quote reading spelled)

/-- The programs that change a directory with all it holds. -/
def treeChangers : List String := ["rm", "mkdir", "chmod"]

/-- The changes that the build makes to a directory. -/
def treeChanges (path : String) : List Shell.Command :=
  [⟨["rm", "-rf", path], []⟩, ⟨["mkdir", "-p", path], []⟩, ⟨["chmod", "-R", "a+rwX", path], []⟩]

/-- A command that changes a directory with all it holds. -/
def IsTreeChange (command : Shell.Command) : Prop :=
  ∃ name ∈ treeChangers, command.words.head? = some name

/-- A request changes no directory with all it holds. -/
def Unchanging (r : Request) : Prop := ∀ command, Runs r command → ¬ IsTreeChange command

/-- A request changes no directory but one, if it changes any, and that with elevated rights and as
the build does. -/
def Confined (path : String) (r : Request) : Prop :=
  ∀ command, Runs r command → IsTreeChange command →
    r.elevated = true ∧ command ∈ treeChanges path

variable {path name command : String} {words targets : List String} {r : Request}

theorem Unchanging.confined (h : Unchanging r) : Confined path r :=
  fun command hruns hchange => absurd hchange (h command hruns)

theorem not_isTreeChange (h : name ∉ treeChangers) : ¬ IsTreeChange ⟨name :: words, targets⟩ := by
  rintro ⟨changer, hchanger, hname⟩
  cases hname
  exact h hchanger

/-- A command that is no change. -/
theorem unchanging_of_reading (hread : reading r.body = some (⟨name :: words, targets⟩, none))
    (hname : name ∉ treeChangers) : Unchanging r := by
  intro command hruns
  rw [Shell.eq_of_holds hread (Shell.holds_of_runs hruns)]
  exact not_isTreeChange hname

/-- A command in a directory that is no change. -/
theorem unchanging_inside {directory : String} {elevated forced : Bool} {limit : Option Nat}
    (hread : reading command = some (⟨name :: words, targets⟩, none)) (hname : name ∉ treeChangers) :
    Unchanging ⟨command, elevated, forced, some directory, limit⟩ := by
  intro later hruns
  have hcd := Node.understood_inside ⟨command, elevated, forced, none, limit⟩ directory
  cases hruns with
  | first h =>
    cases hcd.symm.trans h
    exact not_isTreeChange (by decide)
  | next h hlater =>
    cases hcd.symm.trans h
    rw [Shell.eq_of_holds ((Shell.reading_blank command).trans hread) hlater]
    exact not_isTreeChange hname

/-- A change of the directory. -/
theorem confined_change (hread : reading command = some (⟨name :: words, []⟩, none))
    (hmem : ⟨name :: words, []⟩ ∈ treeChanges path) : Confined path (change command true) := by
  intro command hruns _
  rw [Shell.eq_of_holds hread (Shell.holds_of_runs hruns)]
  exact ⟨rfl, hmem⟩

/-! ## The requests of the build -/

variable (s : Settings) (directory : String)

theorem confined_clearDirectory : AsksOnly (Confined directory) (clearDirectory directory) := by
  have hprobe : Confined directory (Plan.probeRequest directory true) :=
    Unchanging.confined
      (unchanging_of_reading (Shell.reading_spelled "test" (by decide) ["-e", directory]) (by decide))
  have hremove : Confined directory (change ("rm -rf " ++ quote directory) true) :=
    confined_change (Shell.reading_spelled "rm" (by decide) ["-rf", directory])
      (by simp [treeChanges])
  have hmake : Confined directory (change ("mkdir -p " ++ quote directory) true) :=
    confined_change (Shell.reading_spelled "mkdir" (by decide) ["-p", directory])
      (by simp [treeChanges])
  have hmodes : Confined directory
      (change ("chmod -R " ++ quote "a+rwX" ++ " " ++ quote directory) true) :=
    confined_change (Shell.reading_spelled "chmod" (by decide) ["-R", "a+rwX", directory])
      (by simp [treeChanges])
  have hrest : AsksOnly (Confined directory) (onNode (Node.makeDirectory directory true) >>= fun _ =>
      onNode (Node.changeModes directory "a+rwX" true)) :=
    Node.asksOnly_bind (asksOnly_onNode (Node.asksOnly_perform hmake)) fun _ =>
      asksOnly_onNode (Node.asksOnly_perform hmodes)
  refine Node.asksOnly_bind (asksOnly_onNode (Node.asksOnly_isPresent hprobe)) fun present => ?_
  cases present with
  | true => exact Node.asksOnly_bind (asksOnly_onNode (Node.asksOnly_perform hremove)) fun _ => hrest
  | false => exact hrest

theorem confined_runIn {elevated : Bool} {limit : Option Nat} {d : String}
    (hread : reading command = some (⟨name :: words, targets⟩, none)) (hname : name ∉ treeChangers) :
    AsksOnly (Confined directory) (runIn d command elevated limit) :=
  Node.asksOnly_bind (asksOnly_onNode
    (Node.asksOnly_executeChecked (Unchanging.confined (unchanging_inside hread hname)))) fun _ =>
      Node.asksOnly_pure _

theorem confined_fetchSources : AsksOnly (Confined directory) (fetchSources s directory) := by
  have hclone : Confined directory ⟨"git clone " ++ quote s.gitUrl ++ " " ++ quote directory, false,
      true, none, some s.buildLimitMs⟩ :=
    Unchanging.confined (unchanging_of_reading
      (Shell.reading_spelled "git" (by decide) ["clone", s.gitUrl, directory]) (by decide))
  exact Node.asksOnly_bind (asksOnly_onNode (Node.asksOnly_executeChecked hclone)) fun _ =>
    confined_runIn directory
      (Shell.reading_spelled "git" (by decide) ["checkout", "tags/" ++ s.gitTag]) (by decide)

theorem confined_buildCommands (jobs : Nat) : ∀ command ∈ buildCommands s jobs,
    AsksOnly (Confined directory) (runIn directory command true (some s.buildLimitMs)) := by
  have hall : "make -j " ++ toString jobs ++ " all" = spelled ["make", "-j", toString jobs, "all"] := by
    rw [Shell.spelled_make, show " " ++ spelled ["all"] = " all" from by decide +kernel]
  have hinstall : "make -j " ++ toString jobs ++ " install SKIP_IDCHECK=1" =
      spelled ["make", "-j", toString jobs, "install", "SKIP_IDCHECK=1"] := by
    rw [Shell.spelled_make, show " " ++ spelled ["install", "SKIP_IDCHECK=1"] =
      " install SKIP_IDCHECK=1" from by decide +kernel]
  have hmake := Shell.reading_spelled "make" (by decide)
  simp only [buildCommands, List.forall_mem_cons]
  refine ⟨?_, ?_, ?_, ?_, ?_, by simp⟩
  · exact confined_runIn directory (Shell.reading_spelled "autoreconf" (by decide) ["-f"]) (by decide)
  · exact confined_runIn directory (hmake ["autotools"]) (by decide)
  · exact confined_runIn directory (Shell.reading_configure s.installRoot) (by decide)
  · rw [hall]
    exact confined_runIn directory (hmake _) (by decide)
  · rw [hinstall]
    exact confined_runIn directory (hmake _) (by decide)

/-- What the build does in its directory. -/
def buildIn : Step Unit := do
  clearDirectory directory
  fetchSources s directory
  let jobs ← onNode Node.processors
  (buildCommands s jobs).forM fun command => runIn directory command true (some s.buildLimitMs)

theorem build_eq : build s = onNode (findSpace s.requiredDiskGb) >>= fun mountPoint =>
    buildIn s (inside mountPoint s.directoryName) := rfl

/-- **All that is done in the build directory** changes no other. -/
theorem confined_buildIn : AsksOnly (Confined directory) (buildIn s directory) := by
  have hjobs : Confined directory { command := "nproc" } :=
    Unchanging.confined
      (unchanging_of_reading (Shell.reading_spelled "nproc" (by decide) []) (by decide))
  refine Node.asksOnly_bind (confined_clearDirectory directory) fun _ =>
    Node.asksOnly_bind (confined_fetchSources s directory) fun _ =>
      Node.asksOnly_bind (asksOnly_onNode ?_) fun jobs =>
        Node.asksOnly_forM (confined_buildCommands s directory jobs)
  exact Node.asksOnly_bind (Node.asksOnly_executeChecked hjobs) fun _ => Node.asksOnly_mk _

/-! ## The mount point -/

theorem exists_of_mem_mapM {α β ε : Type} {f : α → Except ε β} {xs : List α} {ys : List β}
    (h : xs.mapM f = .ok ys) : ∀ y ∈ ys, ∃ x ∈ xs, f x = .ok y := by
  induction xs generalizing ys with
  | nil =>
    cases h
    simp
  | cons x xs ih =>
    rw [List.mapM_cons] at h
    cases hx : f x with
    | error e =>
      rw [hx] at h
      cases h
    | ok y =>
      cases hxs : xs.mapM f with
      | error e =>
        rw [hx, hxs] at h
        cases h
      | ok more =>
        rw [hx, hxs] at h
        cases h
        intro z hz
        rcases List.mem_cons.mp hz with rfl | hz
        · exact ⟨x, List.mem_cons_self, hx⟩
        · obtain ⟨w, hw, hfw⟩ := ih hxs z hz
          exact ⟨w, List.mem_cons_of_mem _ hw, hfw⟩

theorem mountPoint_ne_empty {line : List Char} {mount : Node.Mount}
    (h : Node.readMount line = .ok (some mount)) : mount.mountPoint ≠ "" := by
  unfold Node.readMount at h
  split at h
  · rename_i a b c d e point more hwords
    have hpoint : point ≠ "" := by
      rintro rfl
      have hmem : "" ∈ (Text.words line).map String.ofList := by rw [hwords]; simp
      obtain ⟨word, hword, hempty⟩ := List.mem_map.mp hmem
      exact Text.ne_nil_of_mem_words hword (by simpa using hempty)
    split at h
    · cases h
      intro hjoined
      have hlist := congrArg String.toList hjoined
      rw [String.toList_intercalate] at hlist
      cases more with
      | nil => exact hpoint (by simpa using hlist)
      | cons next more => simp at hlist
    · cases h
  · cases h

/-- **A mount point has a name.** -/
theorem ne_empty_of_chooseMountPoint {gigabytes : Nat} {output mountPoint : String}
    (h : Node.chooseMountPoint gigabytes output = .ok mountPoint) : mountPoint ≠ "" := by
  unfold Node.chooseMountPoint Node.readMounts at h
  cases hrows : ((Text.lines output.toList).drop 1).mapM Node.readMount with
  | error e =>
    rw [hrows] at h
    cases h
  | ok rows =>
    rw [hrows] at h
    simp only [pure, Except.pure, bind, Except.bind] at h
    split at h
    · rename_i mount hfound
      cases h
      obtain ⟨row, hrow, hmount⟩ := List.mem_filterMap.mp (List.mem_of_find?_eq_some hfound)
      obtain ⟨line, -, hline⟩ := exists_of_mem_mapM hrows row hrow
      exact mountPoint_ne_empty (hline.trans (congrArg Except.ok hmount))
    · cases h

/-- What is found of space is what its command tells. -/
theorem ne_empty_of_findSpace {σ : Type} {exec : Request → StateM σ Answer} {cache : Cache}
    {st : σ} {gigabytes : Nat} {mountPoint : String}
    (h : ((findSpace gigabytes).runOn exec cache st).1.1 = .ok mountPoint) : mountPoint ≠ "" := by
  rw [findSpace, Plan.executeChecked_eq, Node.runOn_turn_bind rfl] at h
  split at h
  · exact ne_empty_of_chooseMountPoint h
  · cases h

/-! ## Where the build changes something -/

/-- The name of the build directory of valid settings. -/
theorem directoryName_of_fault? {s : Settings} (h : s.fault? = none) :
    s.directoryName.toList ≠ [] ∧ '/' ∉ s.directoryName.toList := by
  obtain ⟨-, -, -, hname, hslashless, -, -⟩ := Settings.fault?_eq_none_iff.mp h
  refine ⟨fun hnil => ?_, by simpa using hslashless⟩
  rw [String.toList_eq_nil_iff.mp hnil] at hname
  cases hname

theorem unchanging_findSpace (gigabytes : Nat) : AsksOnly Unchanging (findSpace gigabytes) := by
  have hspace : Unchanging (change "df -P -k" false) :=
    unchanging_of_reading (Shell.reading_spelled "df" (by decide) ["-P", "-k"]) (by decide)
  exact Node.asksOnly_bind (Node.asksOnly_executeChecked hspace) fun _ => Node.asksOnly_mk _

/-- **Where the build changes something**: on any node, whatever it remembers and answers, each
command of the build that changes a directory with all it holds is one of the three changes, has
elevated rights, and changes the directory of the settings' name in the mount point with enough
space. For valid settings this directory lies right below the mount point, just if its name is
neither `.` nor `..`. -/
theorem build_changes {σ : Type} (s : Settings) (hvalid : s.fault? = none)
    (exec : Request → StateM σ Answer) (cache : Cache) (st : σ) :
    ∀ x ∈ ((build s).runOn (watched exec) cache (st, [])).2.2, ∀ command, Runs x.1 command →
      IsTreeChange command → ∃ mountPoint path,
        ((findSpace s.requiredDiskGb).runOn (watched exec) cache (st, [])).1.1 = .ok mountPoint ∧
        x.1.elevated = true ∧ command ∈ treeChanges path ∧
        resolve path = (resolve mountPoint).enter s.directoryName.toList ∧
        ((resolve path).IsChildOf (resolve mountPoint) ↔
          s.directoryName ≠ "." ∧ s.directoryName ≠ "..") := by
  intro x hx command hruns hchange
  obtain ⟨hname, hslash⟩ := directoryName_of_fault? hvalid
  have hnothing : ∀ y ∈ ([] : List Node.Exchange), Unchanging y.1 := by simp
  have hlook := Node.mem_log_of_asksOnly exec cache st (unchanging_findSpace s.requiredDiskGb)
    hnothing
  have hfound := @ne_empty_of_findSpace _ (watched exec) cache (st, []) s.requiredDiskGb
  rw [build_eq, Node.runOn_bind, onNode, Node.runOn_adapt] at hx
  generalize (findSpace s.requiredDiskGb).runOn (watched exec) cache (st, []) = found at *
  obtain ⟨⟨result, cache'⟩, ⟨st', log⟩⟩ := found
  cases result with
  | error e => exact absurd hchange (hlook x hx command hruns)
  | ok mountPoint =>
    have hconfined := Node.mem_log_of_asksOnly exec cache' st'
      (confined_buildIn s (inside mountPoint s.directoryName)) fun y hy => (hlook y hy).confined
    obtain ⟨helevated, hmem⟩ := hconfined x hx command hruns hchange
    have hplace := Node.resolve_inside (hfound rfl) hslash
    refine ⟨mountPoint, _, rfl, helevated, hmem, hplace, ?_⟩
    rw [hplace, Node.Place.enter_isChildOf_iff]
    simp [hname, ← String.toList_inj]

/-- What a node tells whose only disk is mounted at `/mnt`. -/
def oneDisk : Output where
  exitCode := 0
  stdout := "Filesystem\n/dev/sdb1 0 0 2097152 0% /mnt\n"

/-- A world in which every command ends well and tells of the one disk. -/
def oneDiskWorld (_ : Request) : StateM Unit Answer := pure (.ok oneDisk)

theorem build_changes_sample : ({} : Settings).fault? = none ∧
    (change ("rm -rf " ++ quote "/mnt/ltp") true, .ok oneDisk) ∈
      ((build {}).runOn (watched oneDiskWorld) {} ((), [])).2.2 ∧
    Runs (change ("rm -rf " ++ quote "/mnt/ltp") true) ⟨["rm", "-rf", "/mnt/ltp"], []⟩ ∧
    IsTreeChange ⟨["rm", "-rf", "/mnt/ltp"], []⟩ ∧
    ∃ mountPoint path,
      ((findSpace 2).runOn (watched oneDiskWorld) {} ((), [])).1.1 = .ok mountPoint ∧
      (change ("rm -rf " ++ quote "/mnt/ltp") true).elevated = true ∧
      ⟨["rm", "-rf", "/mnt/ltp"], []⟩ ∈ treeChanges path ∧
      resolve path = (resolve mountPoint).enter "ltp".toList ∧
      ((resolve path).IsChildOf (resolve mountPoint) ↔ "ltp" ≠ "." ∧ "ltp" ≠ "..") :=
  have hvalid : ({} : Settings).fault? = none := by decide +kernel
  have hasked : (change ("rm -rf " ++ quote "/mnt/ltp") true, .ok oneDisk) ∈
      ((build {}).runOn (watched oneDiskWorld) {} ((), [])).2.2 := by
    refine List.mem_of_getElem? (i := 2) ?_
    decide +kernel
  have hruns : Runs (change ("rm -rf " ++ quote "/mnt/ltp") true) ⟨["rm", "-rf", "/mnt/ltp"], []⟩ :=
    .first ((Shell.understood_line _).trans
      (Shell.reading_spelled "rm" (by decide) ["-rf", "/mnt/ltp"]))
  have hchange : IsTreeChange ⟨["rm", "-rf", "/mnt/ltp"], []⟩ := ⟨"rm", by decide, rfl⟩
  ⟨hvalid, hasked, hruns, hchange,
    build_changes {} hvalid oneDiskWorld {} () _ hasked _ hruns hchange⟩

/-- A build directory with the name `..` is the directory above the mount point, here the root, and
the build opens that to everyone. -/
theorem build_opens_parent : ({ directoryName := ".." } : Settings).fault? = none ∧
    (change ("chmod -R " ++ quote "a+rwX" ++ " " ++ quote "/mnt/..") true, .ok oneDisk) ∈
      ((build { directoryName := ".." }).runOn (watched oneDiskWorld) {} ((), [])).2.2 ∧
    Runs (change ("chmod -R " ++ quote "a+rwX" ++ " " ++ quote "/mnt/..") true)
      ⟨["chmod", "-R", "a+rwX", "/mnt/.."], []⟩ ∧
    ((findSpace 2).runOn (watched oneDiskWorld) {} ((), [])).1.1 = .ok "/mnt" ∧
    resolve "/mnt/.." = resolve "/" ∧ ¬ (resolve "/mnt/..").IsChildOf (resolve "/mnt") := by
  refine ⟨by decide +kernel, ?_, ?_, by decide +kernel, by decide +kernel, ?_⟩
  · refine List.mem_of_getElem? (i := 4) ?_
    decide +kernel
  · exact .first ((Shell.understood_line _).trans
      (Shell.reading_spelled "chmod" (by decide) ["-R", "a+rwX", "/mnt/.."]))
  · rintro ⟨name, h⟩
    have hlength := congrArg (fun place => place.names.length) h
    have hpath : (resolve "/mnt/..").names.length = 0 := by decide +kernel
    rw [hpath, List.length_append] at hlength
    exact Nat.noConfusion hlength

end Install

end Testbed

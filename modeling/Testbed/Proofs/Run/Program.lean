import Testbed.Proofs.Node.Commands
import Testbed.Proofs.Run.Plan
import Testbed.Proofs.Shell.Room
import Testbed.Settings

/-!
# The program that a run starts

A run looks for the program that runs tests, and later starts it. The probe quotes the path of the
program. The command that starts it does not; so if the path holds a character that means something to
a shell, another program is started than the one that was found.

* `StartsProgram`: whether the command of a run is understood as the program that was looked for, with
  the arguments of the run.

Results:
* `startsProgram_of_ordinary`: it is, if the path is made of ordinary characters.
* `ordinary_of_startsProgram`: it is not otherwise, if the path holds no quote or no argument needs one.

Headline: **`startsProgram_by_path`**, for all valid settings.
-/

namespace Testbed

/-! ## The path of the program -/

namespace Install.Settings

theorem toList_binaryPath (s : Settings) : s.binaryPath.toList =
    Text.dropRight (· == '/') s.installRoot.toList ++ "/runltp".toList := by
  simp [binaryPath, inside, withoutTrailingSlashes]

/-- The path of the program starts at the root, since that of the installation does. -/
theorem head?_binaryPath {s : Settings} (h : s.fault? = none) :
    s.binaryPath.toList.head? = some '/' := by
  obtain ⟨rest, hrest⟩ : "/".toList <+: s.installRoot.toList :=
    List.isPrefixOf_iff_prefix.mp (fault?_eq_none_iff.mp h).root
  obtain ⟨dropped, hdropped⟩ : Text.dropRight (· == '/') s.installRoot.toList <+:
      s.installRoot.toList := by
    rw [Text.dropRight, ← List.reverse_suffix, List.reverse_reverse]
    exact List.dropWhile_suffix _
  rw [toList_binaryPath]
  cases hkept : Text.dropRight (· == '/') s.installRoot.toList with
  | nil => rfl
  | cons c cs =>
    rw [hkept, ← hrest] at hdropped
    exact congrArg some (List.cons.inj hdropped).1

/-- The path can be read by itself, if it holds no quote and can be read at the start of a line. -/
theorem isSome_scan {s : Settings} {more : String} {result : Shell.Command × Option String}
    (hquote : '\'' ∉ s.binaryPath.toList)
    (h : Shell.reading (s.binaryPath ++ " " ++ more) = some result) :
    (Shell.scan (.bare none) s.binaryPath.toList).isSome := by
  obtain ⟨cs, hcs⟩ : ∃ cs, s.binaryPath.toList = cs ++ ['p'] :=
    ⟨_, (toList_binaryPath s).trans (List.append_assoc _ "/runlt".toList ['p']).symm⟩
  have htext : (s.binaryPath ++ " " ++ more).toList = cs ++ 'p' :: ' ' :: more.toList := by
    simp [hcs]
  have hcs' : '\'' ∉ cs := fun hmem => hquote (hcs ▸ List.mem_append_left _ hmem)
  have hline : (Shell.scan (.bare none) (cs ++ 'p' :: ' ' :: more.toList)).isSome := by
    rw [← htext]
    exact Shell.isSome_scan_of_reading h
  have hordinary : Shell.isOrdinary 'p' = true := by decide
  have hplace : (Shell.Place.bare none).isQuoted = false := rfl
  rw [hcs]
  exact Shell.isSome_scan_of_append hordinary hplace hcs' hline

end Install.Settings

namespace Shell

/-- A path from the root is no keyword and no assignment. -/
theorem startsCommand_of_head? {name : String} (h : name.toList.head? = some '/') :
    startsCommand name = true := by
  obtain ⟨cs, hname⟩ : ∃ cs, name.toList = '/' :: cs := List.head?_eq_some_iff.mp h
  have hkeyword : name ∉ keywords := by
    have hkeywords : ∀ word ∈ keywords, word.toList.head? ≠ some '/' := by decide
    exact fun hmem => hkeywords name hmem h
  have hassignment : isAssignment name = false := by
    rw [isAssignment, hname, Text.cutAt?, if_neg (by decide)]
    cases Text.cutAt? '=' cs <;> simp
  simp [startsCommand, hkeyword, hassignment]

end Shell

/-- The settings of the installation are valid in valid settings. -/
theorem Settings.fault?_install {settings : Settings} (h : settings.fault? = none) :
    settings.install.fault? = none :=
  Option.map_eq_none_iff.mp (Option.or_eq_none_iff.mp (Option.or_eq_none_iff.mp h).2).1

/-- The default settings, but for the directory that the suite is installed in. -/
def Settings.installedAt (installRoot : String) : Settings :=
  { install := { installRoot := installRoot } }

namespace Runner

open Shell (isOrdinary quote reading spelled understood)

variable {runner : Runner} {tests skipTests : List String} {drive : Option String}

/-- Whether the command that runs the tests is understood as the program whose presence is probed, with
just the arguments of the run. -/
def StartsProgram (runner : Runner) (tests skipTests : List String) (drive : Option String) : Prop :=
  understood true (testRequest runner tests skipTests drive).line =
    some (⟨runner.install.binaryPath :: testWords runner tests skipTests drive, []⟩, none)

theorem testWords_ne_nil (runner : Runner) (tests skipTests : List String) (drive : Option String) :
    testWords runner tests skipTests drive ≠ [] := by
  simp [testWords]

theorem startsProgram_iff_reading : StartsProgram runner tests skipTests drive ↔
    reading (runner.install.binaryPath ++ " " ++ spelled (testWords runner tests skipTests drive)) =
      some (⟨runner.install.binaryPath :: testWords runner tests skipTests drive, []⟩, none) := by
  have hline := Shell.understood_line (testRequest runner tests skipTests drive)
  rw [StartsProgram, show true = (testRequest runner tests skipTests drive).elevated from rfl, hline]
  rfl

/-- **A path of ordinary characters is started**, whatever the arguments are. -/
theorem startsProgram_of_ordinary (hvalid : runner.install.fault? = none)
    (h : ∀ c ∈ runner.install.binaryPath.toList, isOrdinary c = true) :
    StartsProgram runner tests skipTests drive := by
  have hhead := Install.Settings.head?_binaryPath hvalid
  have hpath : runner.install.binaryPath.toList ≠ [] := by
    intro hnil
    rw [hnil] at hhead
    cases hhead
  rw [startsProgram_iff_reading]
  exact Shell.reading_ordinary (testWords_ne_nil runner tests skipTests drive)
    (Shell.startsCommand_of_head? hhead) hpath h

/-- **No other path is started** if it holds no quote, or if no argument needs one. -/
theorem ordinary_of_startsProgram
    (hquotes : '\'' ∉ runner.install.binaryPath.toList ∨
      ∀ word ∈ testWords runner tests skipTests drive, quote word = word)
    (h : StartsProgram runner tests skipTests drive) :
    ∀ c ∈ runner.install.binaryPath.toList, isOrdinary c = true := by
  rw [startsProgram_iff_reading] at h
  have hne := testWords_ne_nil runner tests skipTests drive
  rcases hquotes with hquotes | hplain
  · exact Shell.ordinary_of_isSome_scan hne (Install.Settings.isSome_scan hquotes h) h
  · exact Shell.ordinary_of_plain hne hplain h

/-- **Which program a run starts**: for all valid settings, the program that is looked for is the one at
the path of the settings. The run starts it if the path is made of ordinary characters; and if the path
is not, the run does not, at least if the path holds no quote or no argument needs one. -/
theorem startsProgram_by_path (settings : Settings) (hvalid : settings.fault? = none)
    (tests skipTests : List String) (drive : Option String) :
    understood true (Plan.probeRequest settings.install.binaryPath true).line =
      some (⟨["test", "-e", settings.install.binaryPath], []⟩, none) ∧
    ((∀ c ∈ settings.install.binaryPath.toList, isOrdinary c = true) →
      StartsProgram ⟨settings.run, settings.install⟩ tests skipTests drive) ∧
    ('\'' ∉ settings.install.binaryPath.toList ∨
        (∀ word ∈ testWords ⟨settings.run, settings.install⟩ tests skipTests drive,
          quote word = word) →
      StartsProgram ⟨settings.run, settings.install⟩ tests skipTests drive →
      ∀ c ∈ settings.install.binaryPath.toList, isOrdinary c = true) := by
  have hinstall := Settings.fault?_install hvalid
  have hprobe := Shell.understood_line (Plan.probeRequest settings.install.binaryPath true)
  have htest := Shell.reading_spelled "test" (by decide) ["-e", settings.install.binaryPath]
  have hstarts := @startsProgram_of_ordinary ⟨settings.run, settings.install⟩ tests skipTests drive
    hinstall
  have hordinary := @ordinary_of_startsProgram ⟨settings.run, settings.install⟩ tests skipTests drive
  exact ⟨hprobe.trans htest, hstarts, hordinary⟩

theorem startsProgram_plain : (Settings.installedAt "/srv/ltp_2/").fault? = none ∧
    StartsProgram ⟨{}, (Settings.installedAt "/srv/ltp_2/").install⟩
      ["abs01", "brk01"] ["abort01"] (some "/dev/my disk") :=
  have hvalid : (Settings.installedAt "/srv/ltp_2/").fault? = none := by decide +kernel
  have hpath : (Settings.installedAt "/srv/ltp_2/").install.binaryPath.toList.all isOrdinary = true := by
    decide +kernel
  ⟨hvalid, (startsProgram_by_path (Settings.installedAt "/srv/ltp_2/") hvalid ["abs01", "brk01"]
    ["abort01"] (some "/dev/my disk")).2.1 (List.all_eq_true.mp hpath)⟩

/-- A blank in the path cuts it in two: `runltp` in `/opt/my ltp` is looked for, and `/opt/my` is
started. -/
theorem misstarted_blank : (Settings.installedAt "/opt/my ltp").fault? = none ∧
    understood true (Plan.probeRequest (Settings.installedAt "/opt/my ltp").install.binaryPath
        true).line =
      some (⟨["test", "-e", "/opt/my ltp/runltp"], []⟩, none) ∧
    understood true (testRequest ⟨{}, (Settings.installedAt "/opt/my ltp").install⟩
        ["abs01"] [] none).line =
      some (⟨["/opt/my", "ltp/runltp", "-p", "-q", "-l", "/opt/ltp/ltp-results.log", "-o",
        "/opt/ltp/ltp-output.log", "-f", "abs01"], []⟩, none) ∧
    ¬ StartsProgram ⟨{}, (Settings.installedAt "/opt/my ltp").install⟩ ["abs01"] [] none := by
  have hpath : (Settings.installedAt "/opt/my ltp").install.binaryPath = "/opt/my ltp/runltp" := by
    decide +kernel
  have hprobe := Shell.understood_line (Plan.probeRequest "/opt/my ltp/runltp" true)
  have htest := Shell.reading_spelled "test" (by decide) ["-e", "/opt/my ltp/runltp"]
  have hline := Shell.understood_line
    (testRequest ⟨{}, (Settings.installedAt "/opt/my ltp").install⟩ ["abs01"] [] none)
  have hread : reading (testRequest ⟨{}, (Settings.installedAt "/opt/my ltp").install⟩
      ["abs01"] [] none).body =
      some (⟨["/opt/my", "ltp/runltp", "-p", "-q", "-l", "/opt/ltp/ltp-results.log", "-o",
        "/opt/ltp/ltp-output.log", "-f", "abs01"], []⟩, none) := by decide +kernel
  rw [hpath]
  refine ⟨by decide +kernel, hprobe.trans htest, hline.trans hread, fun hstarts => ?_⟩
  have hwords := congrArg Prod.fst (Option.some.inj ((hline.trans hread).symm.trans hstarts))
  have hfirst := (List.cons.inj (congrArg Shell.Command.words hwords)).1
  exact absurd hfirst (by decide +kernel)

end Runner

end Testbed

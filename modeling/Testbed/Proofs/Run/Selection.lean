import Testbed.Proofs.Node.Commands
import Testbed.Proofs.Run.Plan
import Testbed.Proofs.Text.Items
import Testbed.Settings

/-!
# The choice of tests on its way to the node

The tests to run go to the node as one argument, with commas between them, and the tests to skip as
a file, one a line. Settings that are valid have no test with a comma or a line feed in its name, so
both can be taken apart again.

* `Command.stored?`: the file that a command makes, and its content.
* `flagWords`: the flags that a drive and its policy stand for.
* `Arrives`: what a run of valid settings hands over of the choice of tests.

Results:
* `reading_arguments`: the arguments of a run are read as they were given, whatever they hold.
* `isCommand_writeSkipFile`: the tests to skip are stored.

Headline: **`selection_arrives`**: all of it, for all valid settings.
-/

namespace Testbed

/-! ## What commands store -/

namespace Shell

/-- The file that a command makes, and its content: `printf '%s'` prints its operand as it is. -/
def Command.stored? : Command → Option (String × String)
  | ⟨["printf", "%s", content], [path]⟩ => some (path, content)
  | _ => none

end Shell

/-! ## The arguments of a run -/

namespace Run

open Shell (reading spelled)

/-- The flags for the log files. -/
def logWords (s : Settings) : List String := ["-p", "-q", "-l", s.resultLog, "-o", s.outputLog]

/-- The flags that a drive, or none, stands for: it replaces the log files or is added to them. -/
def flagWords (s : Settings) : (drive : Option String) → List String
  | none => logWords s
  | some device =>
    match s.drivePolicy with
    | .replace => ["-z", device]
    | .additive => logWords s ++ ["-z", device]

/-- The flag for the skip file, if there is one. -/
def skipWords : (skipFile : Option String) → List String
  | none => []
  | some path => ["-S", path]

variable (s : Settings) (drive : Option String) (tests : List String) (skipFile : Option String)

theorem flags_select : (Mode.select s drive).flags = flagWords s drive := by
  cases drive with
  | none => rfl
  | some device => unfold Mode.select flagWords; cases s.drivePolicy <;> rfl

theorem argumentVector_eq : argumentVector (Mode.select s drive) tests skipFile =
    flagWords s drive ++ ["-f", String.intercalate "," tests] ++ skipWords skipFile := by
  rw [argumentVector, flags_select]
  cases skipFile <;> rfl

/-- The first argument is a flag, which a shell takes for no keyword and no assignment. -/
theorem exists_flagWords : ∃ name words, flagWords s drive = name :: words ∧
    Shell.startsCommand name = true := by
  unfold flagWords
  split
  · exact ⟨_, _, rfl, by decide⟩
  · split <;> exact ⟨_, _, rfl, by decide⟩

/-- **The arguments of a run are read as they were given**: the flags, the tests as one word, and
the skip file if there is one, whatever these texts hold. -/
theorem reading_arguments : reading (arguments (Mode.select s drive) tests skipFile) =
    some (⟨flagWords s drive ++ ["-f", String.intercalate "," tests] ++ skipWords skipFile, []⟩,
      none) := by
  obtain ⟨name, words, hwords, hname⟩ := exists_flagWords s drive
  show reading (spelled (argumentVector (Mode.select s drive) tests skipFile)) = _
  rw [argumentVector_eq, hwords]
  exact Shell.reading_spelled name hname _

end Run

/-! ## The settings of a run -/

namespace Settings

/-- What runs tests for these settings. -/
def runner (s : Settings) : Runner := ⟨s.run, s.install⟩

/-- The choice of tests of these settings. -/
def selection (s : Settings) : Suite.Selection := Suite.Selection.ofSettings s.suite

/-- The skip file, if there is anything to skip. -/
def skipFile? (s : Settings) : Option String :=
  if s.selection.skipTests = [] then none else some s.run.skipFile

variable {s : Settings}

theorem not_mem_of_isTestName {name : String} (h : isTestName name = true) :
    ',' ∉ name.toList ∧ '\n' ∉ name.toList := by
  simp only [isTestName, Bool.and_eq_true, Bool.not_eq_true', List.contains_eq_mem,
    decide_eq_false_iff_not] at h
  exact ⟨h.1.2, h.2⟩

/-- Where the settings are valid, so are the names of all tests in them. -/
theorem isTestName_of_fault? (h : s.fault? = none) :
    ∀ name ∈ s.suite.tests ++ s.suite.skipTests, isTestName name = true := by
  rw [fault?] at h
  simp only [Option.or_eq_none_iff, Option.map_eq_none_iff, List.find?_eq_none] at h
  simpa using h.2.2.2.2

theorem isTestName_liteTests : ∀ name ∈ Suite.liteTests, isTestName name = true := by decide

theorem tests_selection : s.selection.tests =
    if s.suite.tests = [] then Suite.liteTests else s.suite.tests := by
  show Suite.orLite s.suite.tests = _
  unfold Suite.orLite
  simp

theorem tests_selection_ne_nil (s : Settings) : s.selection.tests ≠ [] := by
  rw [tests_selection]
  split
  · decide
  · assumption

theorem isTestName_selection (h : s.fault? = none) :
    ∀ name ∈ s.selection.tests, isTestName name = true := by
  rw [tests_selection]
  split
  · exact isTestName_liteTests
  · exact fun name hname => isTestName_of_fault? h name (List.mem_append_left _ hname)

end Settings

/-! ## The skip file -/

namespace Runner

open Node (Hands IsCommand)
open Shell (quote)

variable {runner : Runner} {skipTests : List String}

theorem writeSkipFile_of_ne (h : skipTests ≠ []) : runner.writeSkipFile skipTests =
    onNode (Node.writeFile runner.run.skipFile (String.intercalate "\n" skipTests) true) >>= fun _ =>
      pure (some runner.run.skipFile) := by
  rw [writeSkipFile, Run.skipContent?, if_neg (by simpa using h)]

/-- **The tests to skip are stored**, one a line, as one command, if there are any. -/
theorem isCommand_writeSkipFile (h : skipTests ≠ []) :
    IsCommand (runner.writeSkipFile skipTests) true
      ⟨["printf", "%s", String.intercalate "\n" skipTests], [runner.run.skipFile]⟩ := by
  have hhands : Hands (runner.writeSkipFile skipTests)
      (Node.change ("printf '%s' " ++ quote (String.intercalate "\n" skipTests) ++ " > " ++
        quote runner.run.skipFile) true) := by
    rw [writeSkipFile_of_ne h, onNode, Node.writeFile, Node.perform, Plan.adapt_bind,
      Plan.executeChecked_eq, Plan.adapt_script, bind_assoc]
    exact Node.hands_script_bind _ fun _ => some runner.run.skipFile
  exact hhands.isCommand (Shell.reading_spelled_into "printf" (by decide) ["%s", _] _)

/-- The skip file is handed on to the run just if it is written. -/
theorem eq_of_writeSkipFile {σ : Type} {exec : Request → StateM σ Answer} {cache : Cache} {st : σ}
    {skipFile : Option String}
    (h : ((runner.writeSkipFile skipTests).runOn exec cache st).1.1 = .ok skipFile) :
    skipFile = if skipTests = [] then none else some runner.run.skipFile := by
  by_cases hne : skipTests = []
  · subst hne
    cases h
    rfl
  · rw [writeSkipFile_of_ne hne, onNode, Node.writeFile, Node.perform, Plan.adapt_bind,
      Plan.executeChecked_eq, Plan.adapt_script, bind_assoc, Node.runOn_turn_bind rfl] at h
    rw [if_neg hne]
    split at h
    · cases h
      rfl
    · cases h

end Runner

/-! ## What arrives -/

/-- What a run with some settings hands over of the choice of tests. -/
structure Settings.Arrives (s : Settings) : Prop where
  /-- The tests of the settings are chosen, or the lite set if there are none. -/
  chosen : s.selection.tests =
    if s.suite.tests = [] then ["math", "fsx", "ipc", "mm", "sched", "pty", "fs"] else s.suite.tests
  /-- The arguments of the program are the flags, one word that is taken apart into the chosen
  tests, and the skip file just if there are tests to skip. -/
  tests : ∃ arguments word,
    (s.runner.request s.selection.tests s.skipFile? s.selection.drive).command =
      s.install.binaryPath ++ " " ++ arguments ∧
    Shell.reading arguments = some (⟨Run.flagWords s.run s.selection.drive ++ ["-f", word] ++
      (if s.suite.skipTests = [] then [] else ["-S", s.run.skipFile]), []⟩, none) ∧
    Text.items ',' word = s.selection.tests
  /-- Where there is nothing to skip, nothing is written. -/
  unwritten : s.suite.skipTests = [] → s.runner.writeSkipFile s.selection.skipTests = pure none
  /-- Otherwise one command makes the skip file, whose lines are the tests to skip. -/
  written : s.suite.skipTests ≠ [] → ∃ command content,
    Node.IsCommand (s.runner.writeSkipFile s.selection.skipTests) true command ∧
    command.stored? = some (s.run.skipFile, content) ∧
    Text.items '\n' content = s.suite.skipTests
  /-- The program is given the skip file if it was written, and none if not. -/
  handed : ∀ (σ : Type) (exec : Request → StateM σ Answer) (cache : Cache) (st : σ) skipFile,
    ((s.runner.writeSkipFile s.selection.skipTests).runOn exec cache st).1.1 = .ok skipFile →
      skipFile = s.skipFile?

/-- **The choice of tests arrives**: the arguments of a run are read as they were given, whatever
the settings, the drive, the tests and the skip file are; and where the settings are valid, the
tests to run and the tests to skip are found again in what is handed over. -/
theorem selection_arrives :
    (∀ (s : Run.Settings) (drive : Option String) (tests : List String) (skipFile : Option String),
      Shell.reading (Run.arguments (Run.Mode.select s drive) tests skipFile) =
        some (⟨Run.flagWords s drive ++ ["-f", String.intercalate "," tests] ++
          Run.skipWords skipFile, []⟩, none)) ∧
    ∀ s : Settings, s.fault? = none → s.Arrives := by
  refine ⟨Run.reading_arguments, fun s hvalid => ?_⟩
  have htests := fun name hname =>
    (Settings.not_mem_of_isTestName (Settings.isTestName_selection hvalid name hname)).1
  have hskip := fun name hname => (Settings.not_mem_of_isTestName
    (Settings.isTestName_of_fault? hvalid name (List.mem_append_right s.suite.tests hname))).2
  have hwords : Run.skipWords s.skipFile? =
      if s.suite.skipTests = [] then [] else ["-S", s.run.skipFile] := by
    show Run.skipWords (if s.suite.skipTests = [] then _ else _) = _
    split <;> rfl
  exact {
    chosen := Settings.tests_selection
    tests := ⟨_, _, rfl, by rw [← hwords]; exact Run.reading_arguments _ _ _ _,
      Text.items_intercalate (Settings.tests_selection_ne_nil s) htests⟩
    unwritten := fun h => by rw [show s.selection.skipTests = [] from h]; rfl
    written := fun h => ⟨_, _, Runner.isCommand_writeSkipFile h, rfl,
      Text.items_intercalate h hskip⟩
    handed := fun _ _ _ _ _ => Runner.eq_of_writeSkipFile }

/-- Names may hold what means something to a shell. -/
theorem selection_arrives_quoted :
    ({ suite := { tests := ["math", "it's"], skipTests := ["fs bind", "$mm!"] } } :
      Settings).fault? = none ∧
    ({ suite := { tests := ["math", "it's"], skipTests := ["fs bind", "$mm!"] } } :
      Settings).Arrives :=
  have hvalid : ({ suite := { tests := ["math", "it's"], skipTests := ["fs bind", "$mm!"] } } :
      Settings).fault? = none := by decide +kernel
  ⟨hvalid, selection_arrives.2 _ hvalid⟩

end Testbed

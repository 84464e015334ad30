import Testbed.Proofs.CommandLine.Overlay
import Testbed.Proofs.Run.Selection
import Testbed.Proofs.Settings.Document
import Testbed.Proofs.Suite.Listing

/-!
# Three ways to name a drive

The drive under test is named by an option, by a variable of the environment, or in the file of the
settings. A name given by hand, by an option or a variable, is trimmed, and a blank one stands for no
drive (`Suite.Names`). The file is taken at its word, and a drive in it is not checked.

* `Settings.Tells`: what the text of a file tells of the drive.
* `Run.operand?`: the operand of an option among the arguments of a run.

Results:
* `drive_of_tells`, `exists_tells`: the drive of a file, which can be any text.
* `TextFrom.of_not_isName`: what is no name comes from the file.
* `inForce_variable_drive`, `inForce_file_drive`: a drive given in another way makes no other difference.
* `operand?_arguments`: the drive in force is the operand of `-z`.
* `arguments_eq_iff`: other drives, other arguments.

Headline: **`drives_agree_iff`**: the three ways come to the same just for a text that stands for
itself; `blank_drive_in_file` is a file with one that does not.
-/

namespace Testbed

/-! ## The file -/

namespace Settings

open Toml

/-- **The text of a file tells what the drive is**: the section on the choice of tests has a field for
it. -/
def Tells (text drive : String) : Prop :=
  ∃ entries section' fields, Entries.read? text = some entries ∧
    entries.lookup "suite" = some section' ∧ section'.fields? suiteFields = some fields ∧
    fields.lookup "drive" = some (.string drive)

variable {text drive : String} {file : Settings}

/-- **The file is taken at its word.** -/
theorem drive_of_tells (htells : Tells text drive) (hfile : read? text = some file) :
    file.suite.drive = some drive := by
  obtain ⟨entries, section', fields, hentries, hsection, hfields, hdrive⟩ := htells
  have hof : ofEntries? entries = some file := by
    unfold read? at hfile
    rwa [hentries] at hfile
  have hsuite : readSuite section' = some file.suite := by
    unfold ofEntries? at hof
    simp only [Entries.field, hsection, Option.bind_eq_bind, Option.bind_eq_some_iff] at hof
    obtain ⟨node, -, run, -, install, -, suite, hsuite, report, -, hfile⟩ := hof
    cases hfile
    exact hsuite
  unfold readSuite at hsuite
  simp only [Option.bind_eq_bind, Option.bind_eq_some_iff] at hsuite
  obtain ⟨fields', hfields', tests, -, skipTests, -, drive?, hdrive?, hsuite⟩ := hsuite
  rw [hfields] at hfields'
  cases hfields'
  unfold Entries.field at hdrive?
  rw [hdrive] at hdrive?
  cases hdrive?
  rw [← Option.some.inj hsuite]

/-- Every text can be said to be the drive. -/
theorem exists_tells (drive : String) : ∃ text, Tells text drive ∧
    read? text = some { suite := { drive := some drive } } := by
  have hfit : ∀ n ∈ ({ suite := { drive := some drive } } : Settings).numbers, n < Printer.numberBound := by
    have hnumbers : ({ suite := { drive := some drive } } : Settings).numbers = ({} : Settings).numbers := rfl
    rw [hnumbers]
    decide
  obtain ⟨text, htext, hread⟩ := read?_document (sound_sections hfit)
  have hentries := hread "" (by decide)
  rw [String.append_empty] at hentries
  refine ⟨text, ⟨_, _, _, hentries, rfl, rfl, rfl⟩, ?_⟩
  change (Entries.read? text).bind ofEntries? = _
  rw [hentries, Option.bind_some, ofEntries?_sections hfit]
  rfl

/-- Nothing about the drive makes settings invalid. -/
theorem fault?_with_drive (s : Settings) (drive? : Option String) :
    { s with suite := { s.suite with drive := drive? } }.fault? = s.fault? := rfl

end Settings

/-! ## The arguments -/

namespace Run

/-- The operand of an option among the arguments of a run. Of the other options, all but two have an
operand as well. -/
def operand? (option : String) : List String → Option String
  | flag :: operand :: rest =>
    if flag = option then some operand
    else if flag = "-p" ∨ flag = "-q" then operand? option (operand :: rest)
    else operand? option rest
  | _ => none

variable (s : Settings) (tests : List String) (skipFile : Option String) {drive? drive?' : Option String}

/-- **The drive is the operand of `-z`**, and without a drive there is no such option. -/
theorem operand?_words (drive? : Option String) : operand? "-z"
    (flagWords s drive? ++ ["-f", String.intercalate "," tests] ++ skipWords skipFile) = drive? := by
  unfold flagWords logWords skipWords
  cases drive? with
  | none => cases skipFile <;> simp [operand?]
  | some device => cases s.drivePolicy <;> cases skipFile <;> simp [operand?]

theorem operand?_arguments (drive? : Option String) : ∃ words,
    Shell.reading (arguments (Mode.select s drive?) tests skipFile) = some (⟨words, []⟩, none) ∧
      operand? "-z" words = drive? :=
  ⟨_, reading_arguments s drive? tests skipFile, operand?_words s tests skipFile drive?⟩

/-- **Other drives, other arguments.** -/
theorem arguments_eq_iff : arguments (Mode.select s drive?) tests skipFile =
    arguments (Mode.select s drive?') tests skipFile ↔ drive? = drive?' := by
  refine ⟨fun h => ?_, fun h => by rw [h]⟩
  obtain ⟨words, hwords, hdrive⟩ := operand?_arguments s tests skipFile drive?
  obtain ⟨words', hwords', hdrive'⟩ := operand?_arguments s tests skipFile drive?'
  rw [h, hwords'] at hwords
  cases hwords
  exact hdrive.symm.trans hdrive'

theorem select_eq_iff : Mode.select s drive? = Mode.select s drive?' ↔ drive? = drive?' := by
  refine ⟨fun h => ?_, fun h => by rw [h]⟩
  have harguments : arguments (Mode.select s drive?) [] none = arguments (Mode.select s drive?') [] none := by
    rw [h]
  exact (arguments_eq_iff s [] none).mp harguments

end Run

/-! ## The drive in force -/

namespace CommandLine

open Suite (IsName Names)

variable {options : RunOptions} {env : Environment} {file s : Settings} {value : String}

/-- A drive that does not stand for itself comes from the file. -/
theorem TextFrom.of_not_isName {text kept : Option String} {drive : String}
    (h : TextFrom Names text kept (some drive)) (hno : ¬ IsName drive) : text = none ∧ kept = some drive := by
  cases h with
  | given _ hnames => exact absurd hnames.isName hno
  | kept hnone => exact ⟨hnone, rfl⟩

/-- A failure is the fault of the environment, whatever the options and the file are. -/
theorem inForce_error {options' : RunOptions} {file' : Settings} {e : SettingsError}
    (h : inForce options env file = .error e) : inForce options' env file' = .error e := by
  obtain ⟨value, hvalue, hnone, rfl, -⟩ := inForce_eq_error_iff.mp h
  exact inForce_of_noPort hvalue (Environment.readPort?_eq_none_iff.mpr hnone)

/-- A variable is in force as the option is. -/
theorem inForce_variable_drive (hoption : options.drive = none) :
    inForce { options with drive := some value } env file =
      inForce options (env.set "LTP_DRIVE" value) file := by
  have hnone : Topic.drive.give none options = options := by
    obtain ⟨target, tests, skip, drive, resultFile, showOutput⟩ := options
    cases hoption
    rfl
  have hgive := inForce_give .drive value options env file
  rwa [hnone] at hgive

/-- What the file gives in the place of an option makes no difference but to the drive. -/
theorem inForce_file_drive (hoption : options.drive = none) (hvariable : env "LTP_DRIVE" = none)
    (h : inForce { options with drive := some value } env file = .ok s) :
    inForce options env { file with suite := { file.suite with drive := some value } } =
      .ok { s with suite := { s.suite with drive := some value } } := by
  obtain ⟨hport, hs⟩ := inForce_eq_ok_iff.mp h
  refine inForce_eq_ok_iff.mpr ⟨hport, ?_⟩
  constructor
  case host => exact hs.host
  case user => exact hs.user
  case port => exact hs.port
  case tests => exact hs.tests
  case skipTests => exact hs.skipTests
  case drive =>
    rw [hoption, hvariable]
    exact .kept rfl
  case identityFile => exact hs.identityFile
  case resultFile => exact hs.resultFile
  case rest =>
    conv_lhs => rw [hs.rest]

/-- **The three ways to name a drive** come to the same just for a text that stands for itself.

Any text can stand in a file, which is taken at its word. What an option gives, or else a variable, is
trimmed, and a blank text stands for no drive; the drive in force is the operand of `-z`, and without
one there is no such operand. So an operand that is blank, or has blanks at its ends, comes from the
file. An option and a variable are in force alike. A text in the file instead makes no difference but to
the drive, and none to whether the settings are valid; and it comes to the same drive, the same mode
and the same arguments, just if it stands for itself. -/
theorem drives_agree_iff (options : RunOptions) (env : Environment) (file : Settings) (value : String) :
    (∃ text, Settings.Tells text value ∧
      Settings.read? text = some { suite := { drive := some value } }) ∧
    (∀ text told, Settings.Tells text value → Settings.read? text = some told →
      told.suite.drive = some value) ∧
    (∀ s, inForce options env file = .ok s →
      TextFrom Names (options.drive.or (env "LTP_DRIVE")) file.suite.drive s.selection.drive ∧
      ∀ tests skipFile, ∃ words,
        Shell.reading (Run.arguments (Run.Mode.select s.run s.selection.drive) tests skipFile) =
          some (⟨words, []⟩, none) ∧
        Run.operand? "-z" words = s.selection.drive ∧
        ∀ drive, Run.operand? "-z" words = some drive → ¬ IsName drive →
          options.drive = none ∧ env "LTP_DRIVE" = none ∧ file.suite.drive = some drive) ∧
    (options.drive = none → env "LTP_DRIVE" = none →
      inForce { options with drive := some value } env file =
        inForce options (env.set "LTP_DRIVE" value) file ∧
      (∀ e, inForce options env { file with suite := { file.suite with drive := some value } } = .error e ↔
        inForce { options with drive := some value } env file = .error e) ∧
      ∀ s, inForce { options with drive := some value } env file = .ok s → ∃ s',
        inForce options env { file with suite := { file.suite with drive := some value } } = .ok s' ∧
        s' = { s with suite := { s.suite with drive := some value } } ∧ s'.fault? = s.fault? ∧
        Names value s.selection.drive ∧ s'.selection.drive = some value ∧
        (s'.selection.drive = s.selection.drive ↔ IsName value) ∧
        (Run.Mode.select s'.run s'.selection.drive = Run.Mode.select s.run s.selection.drive ↔
          IsName value) ∧
        ∀ tests skipFile, Run.arguments (Run.Mode.select s'.run s'.selection.drive) tests skipFile =
          Run.arguments (Run.Mode.select s.run s.selection.drive) tests skipFile ↔ IsName value) := by
  refine ⟨Settings.exists_tells value, fun text told => Settings.drive_of_tells, fun s h => ?_, ?_⟩
  · have hfrom : TextFrom Names (options.drive.or (env "LTP_DRIVE")) file.suite.drive s.selection.drive :=
      (inForce_eq_ok_iff.mp h).2.drive
    refine ⟨hfrom, fun tests skipFile => ?_⟩
    obtain ⟨words, hwords, hdrive⟩ := Run.operand?_arguments s.run tests skipFile s.selection.drive
    refine ⟨words, hwords, hdrive, fun drive hoperand hno => ?_⟩
    rw [← hdrive, hoperand] at hfrom
    obtain ⟨hgiven, hfile⟩ := hfrom.of_not_isName hno
    obtain ⟨hoption, hvariable⟩ := Option.or_eq_none_iff.mp hgiven
    exact ⟨hoption, hvariable, hfile⟩
  · intro hoption hvariable
    refine ⟨inForce_variable_drive hoption, fun e => ⟨inForce_error, inForce_error⟩, fun s h => ?_⟩
    have hnames : Names value s.selection.drive := textFrom_some_iff.mp (inForce_eq_ok_iff.mp h).2.drive
    have hagree : some value = s.selection.drive ↔ IsName value := by
      rw [← Suite.names_self_iff, ← Suite.readDrive_eq_iff, Suite.readDrive_eq_iff.mpr hnames]
      exact eq_comm
    refine ⟨_, inForce_file_drive hoption hvariable h, rfl, s.fault?_with_drive _, hnames, rfl, hagree, ?_, ?_⟩
    · exact (Run.select_eq_iff s.run).trans hagree
    · exact fun tests skipFile => (Run.arguments_eq_iff s.run tests skipFile).trans hagree

/-- A blank text in a file stands for a drive with a blank name, and settings with it are valid. As the
value of the variable it stands for no drive. -/
theorem blank_drive_in_file :
    Settings.read? "[suite]\ndrive = \" \"\n" = some { suite := { drive := some " " } } ∧
    ({ suite := { drive := some " " } } : Settings).fault? = none ∧
    Shell.reading (Run.arguments (Run.Mode.select {} (some " ")) ["math"] none) =
      some (⟨["-z", " ", "-f", "math"], []⟩, none) ∧
    (inForce {} (Environment.ofList []) { suite := { drive := some " " } }).map (·.selection.drive) =
      .ok (some " ") ∧
    (inForce {} (Environment.ofList [("LTP_DRIVE", " ")]) {}).map (·.selection.drive) = .ok none := by
  refine ⟨?_, ?_, ?_, ?_, ?_⟩ <;> decide +kernel

end CommandLine

end Testbed

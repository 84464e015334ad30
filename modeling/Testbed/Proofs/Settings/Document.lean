import Testbed.Proofs.Toml.Document
import Testbed.Settings.Load

/-!
# Written settings are read back, but for a drive that is not set

Settings are written as five sections, and each section is read field by field. What a reader makes
of a section depends only on the entries it looks up: that those are the fields that were written is
all that the lemmas on the five readers need (`Holds`).

An option that is not set is not written, and what is not written is read as its default. For the
identity file and the file of the summary that is the same, for the drive it is not: its default is
a drive. So settings without a drive are written (the environment can make some), but not read back.

* `numbers`: the numbers of settings, of which each must fit for them to be written.
* `Holds`: the entries of a table are just some fields.
* `reloaded`: settings, with the default drive for one that is not set.
* `read?_text`: what the text of settings is read as.

Headline: **`written_reads_back`**: the text of settings is read as these settings, just if they
name a drive; `forgets_no_drive` are some that do not.
-/

namespace Testbed.Settings

open Toml

/-! ## Fields -/

@[simp] theorem string?_string (value : String) :
    (Plain.string value).item.string? = some value := rfl

@[simp] theorem choice?_string (value : String) :
    (Plain.string value).item.choice? = some value := rfl

@[simp] theorem boolean?_boolean (value : Bool) :
    (Plain.boolean value).item.boolean? = some value := rfl

@[simp] theorem strings?_strings (values : List String) :
    (Plain.strings values).item.strings? = some values := by
  change (values.map Item.string).mapM Item.string? = some values
  rw [List.mapM_map]
  induction values with
  | nil => rfl
  | cons v values ih => simp_all [List.mapM_cons, Item.string?]

theorem natural?_number {limit n : Nat} (h : n < limit) :
    (Plain.number n).item.natural? limit = some n := by
  have hrange : 0 ≤ (n : Int) ∧ (n : Int) < limit := by omega
  simp [Plain.item, Item.natural?, hrange]

@[simp] theorem readPort_number (port : UInt16) :
    readPort (Plain.number port.toNat).item = some port := by
  have h : port.toNat < Ssh.portLimit := port.toNat_lt
  rw [readPort, natural?_number h]
  simp

/-- What is looked up by a name that stands for one element only. -/
theorem lookup_map_of_mem {α : Type} {key : α → String} {item : α → Item} {xs : List α}
    (h : (xs.map key).Nodup) : ∀ x ∈ xs, (xs.map fun x => (key x, item x)).lookup (key x) =
      some (item x) := by
  induction xs with
  | nil => simp
  | cons first xs ih =>
    obtain ⟨hfirst, hxs⟩ := List.nodup_cons.mp h
    intro x hx
    rcases List.mem_cons.mp hx with rfl | hx
    · simp
    · have hne : key x ≠ key first := fun e => hfirst (e ▸ List.mem_map_of_mem hx)
      simpa [List.lookup_cons, beq_eq_false_iff_ne.mpr hne] using ih hxs x hx

/-- The entries are just the fields that are written. -/
structure Holds (written : List (String × Plain)) (entries : Entries) : Prop where
  present : ∀ field ∈ written, entries.lookup field.1 = some field.2.item
  absent : ∀ name, name ∉ written.map Prod.fst → entries.lookup name = none

theorem holds_map {written : List (String × Plain)} (h : (written.map Prod.fst).Nodup) :
    Holds written (written.map fun (name, value) => (name, value.item)) where
  present := lookup_map_of_mem h
  absent name hname := by
    apply lookup_eq_none
    rwa [List.map_map]

variable {fields : Entries} {written : List (String × Plain)}

/-- An option that is not written has its default. -/
theorem Holds.field_optional {name : String} {value default : Option String}
    (h : Holds written fields) (hpresent : ∀ field ∈ optional name value, field ∈ written)
    (habsent : value = none → name ∉ written.map Prod.fst) :
    fields.field name someString? default = some (value.or default) := by
  cases value with
  | none => rw [Entries.field, h.absent name (habsent rfl), Option.none_or]
  | some text =>
    rw [Entries.field, h.present (name, .string text) (hpresent _ (by simp [optional]))]
    rfl

/-! ## The five readers -/

theorem readNode_of_holds {s : Ssh.Settings} (hconnect : s.connectTimeoutSecs < numberLimit)
    (hdefault : s.defaultTimeoutSecs < numberLimit) (h : Holds (nodeSection s).fields fields) :
    readNode (.table .header fields) = some s := by
  have hidentity : fields.field "identity_file" someString? none = some (s.identityFile.or none) :=
    h.field_optional (by simp +contextual [nodeSection])
      (fun hnone => by simp [nodeSection, optional, hnone])
  have hpresent := h.present
  simp only [nodeSection, List.forall_mem_cons, List.forall_mem_append] at hpresent
  obtain ⟨⟨⟨hhost, hport, huser, -⟩, -⟩, hsecs, hlimit, hstrict, hextra, -⟩ := hpresent
  rw [Entries.field] at hidentity
  simp [readNode, Item.fields?, Entries.field, hhost, hport, huser, hidentity, hsecs, hlimit,
    hstrict, hextra, natural?_number hconnect, natural?_number hdefault]

theorem readRun_of_holds {s : Run.Settings} (hsecs : s.runTimeoutSecs < numberLimit)
    (h : Holds (runSection s).fields fields) : readRun (.table .header fields) = some s := by
  have hpresent := h.present
  simp only [runSection, List.forall_mem_cons] at hpresent
  obtain ⟨hresult, houtput, hskip, htimeout, hpolicy, -⟩ := hpresent
  simp [readRun, Item.fields?, Entries.field, hresult, houtput, hskip, htimeout, hpolicy,
    natural?_number hsecs, Run.DrivePolicy.ofName?_name]

theorem readInstall_of_holds {s : Install.Settings} (hdisk : s.requiredDiskGb < numberLimit)
    (hmin : s.minSwapMb < numberLimit) (hswap : s.swapFileSizeMb < numberLimit)
    (hbuild : s.buildTimeoutSecs < numberLimit) (h : Holds (installSection s).fields fields) :
    readInstall (.table .header fields) = some s := by
  have hpresent := h.present
  simp only [installSection, List.forall_mem_cons] at hpresent
  obtain ⟨hurl, htag, hroot, hdirectory, hgb, hmb, hfile, hsize, hsecs, -⟩ := hpresent
  simp [readInstall, Item.fields?, Entries.field, hurl, htag, hroot, hdirectory, hgb, hmb, hfile,
    hsize, hsecs, natural?_number hdisk, natural?_number hmin, natural?_number hswap,
    natural?_number hbuild]

/-- The choice of tests is read with the default drive for one that is not set. -/
theorem readSuite_of_holds {s : Suite.Settings} (h : Holds (suiteSection s).fields fields) :
    readSuite (.table .header fields) =
      some { s with drive := s.drive.or (some Suite.defaultDrive) } := by
  have hdrive : fields.field "drive" someString? (some Suite.defaultDrive) =
      some (s.drive.or (some Suite.defaultDrive)) :=
    h.field_optional (by simp +contextual [suiteSection])
      (fun hnone => by simp [suiteSection, optional, hnone])
  have hpresent := h.present
  simp only [suiteSection, List.forall_mem_cons, List.forall_mem_append] at hpresent
  obtain ⟨⟨htests, hskip, -⟩, -⟩ := hpresent
  rw [Entries.field] at hdrive
  simp [readSuite, Item.fields?, Entries.field, htests, hskip, hdrive]

theorem readReport_of_holds {s : Report.Settings} (h : Holds (reportSection s).fields fields) :
    readReport (.table .header fields) = some s := by
  have hfile : fields.field "result_file" someString? none = some (s.resultFile.or none) :=
    h.field_optional (by simp [reportSection])
      (fun hnone => by simp [reportSection, optional, hnone])
  simp [readReport, Item.fields?, hfile]

/-! ## The sections -/

variable {s : Settings}

/-- The numbers of settings. The port is left out, which fits in any case. -/
def numbers (s : Settings) : List Nat :=
  [s.node.connectTimeoutSecs, s.node.defaultTimeoutSecs, s.run.runTimeoutSecs,
    s.install.requiredDiskGb, s.install.minSwapMb, s.install.swapFileSizeMb,
    s.install.buildTimeoutSecs]

/-- A section is sound if its fields are among some names and can be written. -/
theorem sound_of_sublist {name : String} (names : List String) (hname : IsBare name)
    (hnames : names.Nodup ∧ ∀ name ∈ names, IsBare name)
    (hsub : (written.map Prod.fst).Sublist names) (hfit : ∀ field ∈ written, field.2.Fits) :
    Section.Sound ⟨name, written⟩ where
  bare := hname
  fields_bare field hfield := hnames.2 field.1 (hsub.mem (List.mem_map_of_mem hfield))
  fields_fit := hfit
  fields_nodup := hsub.nodup hnames.1

theorem sublist_optional (name : String) (value : Option String) :
    ((optional name value).map Prod.fst).Sublist [name] := by
  cases value with
  | none => exact List.nil_sublist [name]
  | some text => exact List.Sublist.refl [name]

theorem fits_optional (name : String) (value : Option String) :
    ∀ field ∈ optional name value, field.2.Fits := by
  simp [optional, Plain.Fits]

theorem sound_nodeSection {s : Ssh.Settings} (hconnect : s.connectTimeoutSecs < Printer.numberBound)
    (hdefault : s.defaultTimeoutSecs < Printer.numberBound) : (nodeSection s).Sound := by
  have hport : s.port.toNat < Printer.numberBound := Nat.lt_trans s.port.toNat_lt (by decide)
  refine sound_of_sublist nodeFields (by decide) (by decide) ?_ ?_
  · rw [List.map_append, List.map_append]
    exact ((List.Sublist.refl _).append (sublist_optional _ _)).append (List.Sublist.refl _)
  · simp only [List.forall_mem_append, List.forall_mem_cons]
    exact ⟨⟨⟨trivial, hport, trivial, by simp⟩, fits_optional _ _⟩,
      hconnect, hdefault, trivial, trivial, by simp⟩

theorem sound_runSection {s : Run.Settings} (h : s.runTimeoutSecs < Printer.numberBound) :
    (runSection s).Sound := by
  refine sound_of_sublist runFields (by decide) (by decide) (List.Sublist.refl _) ?_
  simp [Plain.Fits, h]

theorem sound_installSection {s : Install.Settings} (hdisk : s.requiredDiskGb < Printer.numberBound)
    (hmin : s.minSwapMb < Printer.numberBound) (hswap : s.swapFileSizeMb < Printer.numberBound)
    (hbuild : s.buildTimeoutSecs < Printer.numberBound) : (installSection s).Sound := by
  refine sound_of_sublist installFields (by decide) (by decide) (List.Sublist.refl _) ?_
  simp [Plain.Fits, hdisk, hmin, hswap, hbuild]

theorem sound_suiteSection (s : Suite.Settings) : (suiteSection s).Sound := by
  refine sound_of_sublist suiteFields (by decide) (by decide) ?_ ?_
  · rw [List.map_append]
    exact (List.Sublist.refl _).append (sublist_optional _ _)
  · simp only [List.forall_mem_append, List.forall_mem_cons]
    exact ⟨⟨trivial, trivial, by simp⟩, fits_optional _ _⟩

theorem sound_reportSection (s : Report.Settings) : (reportSection s).Sound :=
  sound_of_sublist reportFields (by decide) (by decide) (sublist_optional _ _) (fits_optional _ _)

theorem sound_sections (h : ∀ n ∈ s.numbers, n < Printer.numberBound) : Sound s.sections := by
  simp only [numbers, List.forall_mem_cons] at h
  obtain ⟨hconnect, hdefault, hrun, hdisk, hmin, hswap, hbuild, -⟩ := h
  constructor
  · simp only [sections, List.forall_mem_cons]
    exact ⟨sound_nodeSection hconnect hdefault, sound_runSection hrun,
      sound_installSection hdisk hmin hswap hbuild, sound_suiteSection s.suite,
      sound_reportSection s.report, by simp⟩
  · change ["node", "ltp", "install", "suite", "report"].Nodup
    decide

/-! ## Whole settings -/

/-- Settings with the drive that is the default, for one that is not set. -/
def reloaded (s : Settings) : Settings :=
  { s with suite := { s.suite with drive := s.suite.drive.or (some "/dev/sdc") } }

theorem reloaded_eq_self_iff : s.reloaded = s ↔ s.suite.drive ≠ none := by
  obtain ⟨node, run, install, ⟨tests, skipTests, drive⟩, report⟩ := s
  cases drive <;> simp [reloaded]

/-- A section of a document is read on its own. -/
theorem field_section {α : Type} {read : Item → Option α} {default value : α}
    {sections : List Section} (h : Sound sections) (section' : Section) (hmem : section' ∈ sections)
    (hread : ∀ fields, Holds section'.fields fields → read (.table .header fields) = some value) :
    (Entries.ofSections sections).field section'.name read default = some value := by
  have hlookup : (Entries.ofSections sections).lookup section'.name = some (.table .header
      (section'.fields.map fun (name, value) => (name, value.item))) :=
    lookup_map_of_mem h.names_nodup section' hmem
  rw [Entries.field, hlookup]
  exact hread _ (holds_map (h.sections_sound section' hmem).fields_nodup)

theorem ofEntries?_sections (h : ∀ n ∈ s.numbers, n < Printer.numberBound) :
    ofEntries? (Entries.ofSections s.sections) = some s.reloaded := by
  have hsound := sound_sections h
  have hlimit : ∀ n ∈ s.numbers, n < numberLimit := fun n hn => Nat.lt_trans (h n hn) (by decide)
  simp only [numbers, List.forall_mem_cons] at hlimit
  obtain ⟨hconnect, hdefault, hsecs, hdisk, hmin, hswap, hbuild, -⟩ := hlimit
  have hnode : (Entries.ofSections s.sections).field "node" readNode {} = some s.node :=
    field_section hsound (nodeSection s.node) (by simp [sections])
      fun _ => readNode_of_holds hconnect hdefault
  have hrun : (Entries.ofSections s.sections).field "ltp" readRun {} = some s.run :=
    field_section hsound (runSection s.run) (by simp [sections]) fun _ => readRun_of_holds hsecs
  have hinstall : (Entries.ofSections s.sections).field "install" readInstall {} = some s.install :=
    field_section hsound (installSection s.install) (by simp [sections])
      fun _ => readInstall_of_holds hdisk hmin hswap hbuild
  have hsuite :
      (Entries.ofSections s.sections).field "suite" readSuite {} = some s.reloaded.suite :=
    field_section hsound (suiteSection s.suite) (by simp [sections]) fun _ => readSuite_of_holds
  have hreport : (Entries.ofSections s.sections).field "report" readReport {} = some s.report :=
    field_section hsound (reportSection s.report) (by simp [sections]) fun _ => readReport_of_holds
  simp [ofEntries?, hnode, hrun, hinstall, hsuite, hreport, reloaded]

/-- What the text of settings is read as. -/
theorem read?_text (h : ∀ n ∈ s.numbers, n < Printer.numberBound) :
    ∃ text, s.text? = some text ∧ ∀ ending ∈ endings, read? (text ++ ending) = some s.reloaded := by
  obtain ⟨text, htext, hread⟩ := read?_document (sound_sections h)
  refine ⟨text, htext, fun ending hending => ?_⟩
  change (Entries.read? (text ++ ending)).bind ofEntries? = _
  rw [hread ending hending, Option.bind_some, ofEntries?_sections h]

/-- **Written settings are read back, but for a drive that is not set.** Settings whose numbers fit
are written, and the text, with a further line end or without, is read as the settings with the
default drive for one that is not set: as the same settings, just if they name a drive. -/
theorem written_reads_back (s : Settings) (h : ∀ n ∈ s.numbers, n < Printer.numberBound)
    (path : String) :
    (∃ text, s.text? = some text ∧
      ∀ ending ∈ endings, ofText path (text ++ ending) = .ok s.reloaded) ∧
    (s.reloaded = s ↔ s.suite.drive ≠ none) := by
  obtain ⟨text, htext, hread⟩ := read?_text h
  refine ⟨⟨text, htext, fun ending hending => ?_⟩, reloaded_eq_self_iff⟩
  rw [ofText, hread ending hending]

/-- Settings with numbers as large as can be written, and with texts that need quotes of every kind.
-/
def sample : Settings where
  node := {
    host := "10.0.0.4"
    identityFile := some "/keys/\"mine\".pem"
    defaultTimeoutSecs := 9223372036854775807
    extraOptions := ["ProxyCommand=sh -c 'nc \"%h\" 22'", "LogLevel=ERROR"] }
  suite := {
    tests := ["math"]
    skipTests := ["a\nb", "\t\x7f\"\"\"\'\'\'"]
    drive := some "C:\\\'" }

theorem written_reads_back_sample :
    (∀ n ∈ sample.numbers, n < Printer.numberBound) ∧
    (∃ text, sample.text? = some text ∧
      ∀ ending ∈ endings, ofText "saved.toml" (text ++ ending) = .ok sample) := by
  have h : ∀ n ∈ sample.numbers, n < Printer.numberBound := by decide
  have hread := written_reads_back sample h "saved.toml"
  rw [hread.2.mpr (by decide)] at hread
  exact ⟨h, hread.1⟩

/-- The environment makes settings without a drive from the default ones. Their text is read as the
default settings, which have one. -/
theorem forgets_no_drive :
    ({} : Settings).override (Environment.ofList [("LTP_DRIVE", "")]) =
      ({ suite := { drive := none } }, .ok ()) ∧
    (∃ text, ({ suite := { drive := none } } : Settings).text? = some text ∧
      ofText "saved.toml" text = .ok {}) ∧
    ({ suite := { drive := none } } : Settings) ≠ {} := by
  have hfit : ∀ n ∈ ({ suite := { drive := none } } : Settings).numbers,
      n < Printer.numberBound := by
    decide
  obtain ⟨text, htext, hread⟩ := read?_text hfit
  have hplain := hread "" (by decide)
  rw [String.append_empty] at hplain
  refine ⟨by decide +kernel, ⟨text, htext, ?_⟩, by decide⟩
  rw [ofText, hplain]
  rfl

end Testbed.Settings

import Testbed.Host.Sandbox
import Testbed.Proofs.CommandLine.Stages

/-!
# The verdict of the program

A command that acts on a node may be refused before it does anything; otherwise it goes through all its
stages, whatever comes of each, and ends well only if they do.

* `Order.settings?`: the settings of an order, from its file, the environment and its options.
* `Order.Refused`: an order that is refused, by what the machine tells of its files.

Results:
* `goes_refused`: an order that is refused only looks at files, and fails.
* `exists_settings`: one that is not refused has settings that can work.

Headline: **`program_verdict`**: for each command line that is a run or an installation.
-/

namespace Testbed.CommandLine

open Host (Action Sandbox)
open Script (Goes goes_bind_done goes_done goes_question)

variable {ω : Type} {answer : (action : Action) → StateM ω action.Reply} {w w₁ w₂ : ω}
  {env : Environment} {order : Order}

/-! ## The settings of an order -/

/-- The actions that read the file of the settings. -/
def fileReads (file : Option String) : List Action := (file.map Action.read).toList

/-- What the file of the settings comes to, if one is named. -/
def fileSettings (answer : (action : Action) → StateM ω action.Reply) (file : Option String) (w : ω) :
    Except SettingsError Settings :=
  match file with
  | none => .ok {}
  | some path =>
    match (answer (.read path) w).1 with
    | .error fault => .error (.unreadable path fault)
    | .ok text => Settings.ofText path text

/-- Settings overridden by the environment. -/
def overridden (env : Environment) (s : Settings) : Except SettingsError Settings :=
  (s.override env).2.map fun _ => (s.override env).1

/-- Settings as the options of a command change them. -/
def Command.settings : Command → Settings → Settings
  | .run options, s => options.apply s
  | .install target, s | .showConfig target, s => target.apply s
  | .parse .., s => s

/-- The settings of an order: those of its file, overridden by the environment and then by its
options. -/
def Order.settings? (answer : (action : Action) → StateM ω action.Reply) (env : Environment) (w : ω)
    (order : Order) : Option Settings :=
  (fileSettings answer order.settingsFile w).toOption.map fun s =>
    order.command.settings (s.override env).1

/-- Where the variable for the port holds one, if it is set, the environment overrides settings. -/
theorem override_eq_ok_iff {s : Settings} : (s.override env).2 = .ok () ↔
    ∀ value, env "LTP_NODE_PORT" = some value → Environment.readPort? value ≠ none := by
  rw [Settings.override, Settings.overridePort]
  cases hvalue : env "LTP_NODE_PORT" with
  | none => exact iff_of_true rfl nofun
  | some value =>
    cases hport : Environment.readPort? value with
    | none =>
      refine iff_of_false ?_ fun h => h value rfl hport
      simp [hport]
    | some port =>
      refine iff_of_true ?_ ?_
      · simp [hport]
      · rintro _ ⟨⟩
        rw [hport]
        exact Option.some_ne_none port

/-- What is loaded is what there is, overridden. -/
theorem override_eq (env : Environment) (base : Except SettingsError Settings) :
    (do let (s, outcome) := (← base).override env
        outcome
        pure s : Except SettingsError Settings) = base >>= overridden env := by
  cases base with
  | error e => rfl
  | ok file =>
    simp only [bind, Except.bind, overridden]
    generalize Settings.override env file = result
    obtain ⟨s, _ | _⟩ := result <;> rfl

theorem goes_load (file : Option String) (env : Environment) (w : ω) :
    Goes answer (Settings.load file env) w (fileReads file)
      (fileSettings answer file w >>= overridden env) (after answer (fileReads file) w) := by
  cases file with
  | none =>
    exact goes_bind_done (goes_done (Except.ok ({} : Settings)) w)
      (congrArg Script.done (override_eq env (.ok {})))
  | some path =>
    have hread : Goes answer (Settings.ofFile path) w [.read path] (fileSettings answer (some path) w)
        (answer (.read path) w).2 := by
      refine goes_bind_done (goes_question (Action.read path) w) ?_
      simp only [fileSettings]
      cases (answer (.read path) w).1 <;> rfl
    exact goes_bind_done hread (congrArg Script.done (override_eq env _))

/-! ## Refusal -/

/-- A command that acts on a node. -/
def Command.OnNode : Command → Prop
  | .run _ | .install _ => True
  | .parse .. | .showConfig _ => False

/-- **An order that is refused**: its settings cannot be read, the environment names no port, the
settings cannot work, or there is something where the result file is to be written. -/
inductive Order.Refused (answer : (action : Action) → StateM ω action.Reply) (env : Environment)
    (w : ω) : Order → Prop
  | unreadable {path : String} {fault : Host.FileFault} {command : Command}
      (h : (answer (.read path) w).1 = .error fault) : Refused answer env w ⟨some path, command⟩
  | malformed {path text : String} {command : Command} (h : (answer (.read path) w).1 = .ok text)
      (hread : Settings.read? text = none) : Refused answer env w ⟨some path, command⟩
  | noPort {order : Order} {value : String} (h : env "LTP_NODE_PORT" = some value)
      (hport : Environment.readPort? value = none) : Refused answer env w order
  | invalid {order : Order} {s : Settings} {fault : SettingsError}
      (h : order.settings? answer env w = some s) (hfault : s.fault? = some fault) :
      Refused answer env w order
  | resultFile {file : Option String} {options : RunOptions} {s : Settings} {path : String}
      (h : Order.settings? answer env w ⟨file, .run options⟩ = some s)
      (hpath : s.report.resultFile = some path)
      (hthere : (answer (.probe path) (after answer (fileReads file) w)).1 = true) :
      Refused answer env w ⟨file, .run options⟩

/-- Where settings are found that can work, there is a way to the node. -/
theorem exists_transport {s : Settings} (h : s.fault? = none) (here : Bool) :
    ∃ way, transport s here = .ok way := by
  cases here with
  | true => exact ⟨_, rfl⟩
  | false =>
    have hnode : s.node.fault? = none := Option.map_eq_none_iff.mp (Option.or_eq_none_iff.mp h).1
    refine ⟨.ssh "ssh" s.node, ?_⟩
    rw [transport, if_neg Bool.false_ne_true, Transport.ssh?, hnode]

theorem check_eq_ok_iff {s : Settings} : s.check = .ok () ↔ s.fault? = none := by
  rw [Settings.check]
  cases s.fault? with
  | none => exact iff_of_true rfl rfl
  | some e => exact iff_of_false nofun nofun

/-- What is loaded is what the file says, overridden by the environment. -/
theorem exists_of_loaded {file : Option String} {base : Settings}
    (h : fileSettings answer file w >>= overridden env = .ok base) :
    ∃ s, fileSettings answer file w = .ok s ∧ (s.override env).2 = .ok () ∧
      base = (s.override env).1 := by
  cases hfile : fileSettings answer file w with
  | error e =>
    rw [hfile] at h
    cases h
  | ok s =>
    rw [hfile] at h
    have hover : overridden env s = .ok base := h
    rw [overridden] at hover
    cases houtcome : (s.override env).2 with
    | error e =>
      rw [houtcome] at hover
      cases hover
    | ok =>
      rw [houtcome] at hover
      exact ⟨s, rfl, houtcome, (Except.ok.inj hover).symm⟩

theorem settings?_of_loaded {base : Settings}
    (h : fileSettings answer order.settingsFile w >>= overridden env = .ok base) :
    order.settings? answer env w = some (order.command.settings base) := by
  obtain ⟨s, hfile, -, rfl⟩ := exists_of_loaded h
  rw [Order.settings?, hfile]
  rfl

/-- **An order that is not refused** has settings that can work, and its result file is not there. -/
theorem exists_settings (h : ¬order.Refused answer env w) :
    ∃ base, fileSettings answer order.settingsFile w >>= overridden env = .ok base ∧
      order.settings? answer env w = some (order.command.settings base) ∧
      (order.command.settings base).fault? = none := by
  obtain ⟨file, command⟩ := order
  cases hfile : fileSettings answer file w with
  | error e =>
    cases file with
    | none => cases hfile
    | some path =>
      rw [fileSettings] at hfile
      cases hread : (answer (.read path) w).1 with
      | error fault => exact absurd (.unreadable hread) h
      | ok text =>
        simp only [hread, Settings.ofText] at hfile
        cases htext : Settings.read? text with
        | none => exact absurd (.malformed hread htext) h
        | some s =>
          rw [htext] at hfile
          cases hfile
  | ok s =>
    have hport : (s.override env).2 = .ok () :=
      override_eq_ok_iff.mpr fun value hvalue hport => h (.noPort hvalue hport)
    have hloaded : overridden env s = .ok (s.override env).1 := by
      rw [overridden, hport]
      rfl
    have hsettings : Order.settings? answer env w ⟨file, command⟩ =
        some (command.settings (s.override env).1) := by
      rw [Order.settings?, hfile]
      rfl
    refine ⟨_, hloaded, hsettings, ?_⟩
    cases hfault : (command.settings (s.override env).1).fault? with
    | none => rfl
    | some e => exact absurd (.invalid hsettings hfault) h

/-! ## The course of an order -/

theorem goes_perform_of_error {e : SettingsError}
    (h : fileSettings answer order.settingsFile w >>= overridden env = .error e) :
    Goes answer (order.perform env).run w (fileReads order.settingsFile) (.error (.settings e))
      (after answer (fileReads order.settingsFile) w) := by
  have hload := @goes_load ω answer order.settingsFile env w
  rw [h] at hload
  exact goes_failed (goes_attempt hload)

theorem goes_perform_of_ok {base : Settings} {more : List Action} {result : Except Failure Unit}
    (h : fileSettings answer order.settingsFile w >>= overridden env = .ok base)
    (hcommand : Goes answer (order.command.perform base).run
      (after answer (fileReads order.settingsFile) w) more result w₂) :
    Goes answer (order.perform env).run w (fileReads order.settingsFile ++ more) result w₂ := by
  have hload := @goes_load ω answer order.settingsFile env w
  rw [h] at hload
  exact goes_andThen (goes_attempt hload) hcommand

theorem looks_fileReads (file : Option String) : ∀ action ∈ fileReads file, action.Looks := by
  cases file with
  | none => exact nofun
  | some path => exact List.forall_mem_singleton.mpr trivial

/-- Settings that cannot work are an end to a command that acts on a node. -/
theorem goes_command_of_fault {command : Command} (hcommand : command.OnNode) {base : Settings}
    {e : SettingsError} (h : (command.settings base).fault? = some e) :
    Goes answer (command.perform base).run w [] (.error (.settings e)) w := by
  have hcheck : (command.settings base).check = .error e := by rw [Settings.check, h]
  cases command with
  | run options => exact goes_decided_failed hcheck w
  | install target => exact goes_decided_failed hcheck w
  | parse | showConfig => exact hcommand.elim

/-- **An order that is refused** only looks at files, and fails. -/
theorem goes_refused (hcommand : order.command.OnNode) (h : order.Refused answer env w) :
    ∃ failure looks w', (∀ action ∈ looks, action.Looks) ∧
      Goes answer (order.perform env).run w looks (.error failure) w' := by
  cases hloaded : fileSettings answer order.settingsFile w >>= overridden env with
  | error e =>
    exact ⟨_, _, _, looks_fileReads order.settingsFile, goes_perform_of_error hloaded⟩
  | ok base =>
    have hsettings := settings?_of_loaded hloaded
    cases hfault : (order.command.settings base).fault? with
    | some e =>
      refine ⟨_, _, _, ?_, goes_perform_of_ok hloaded (goes_command_of_fault hcommand hfault)⟩
      rw [List.append_nil]
      exact looks_fileReads order.settingsFile
    | none =>
      cases h with
      | unreadable h =>
        simp only [fileSettings, h] at hloaded
        cases hloaded
      | malformed h hread =>
        simp only [fileSettings, h, Settings.ofText, hread] at hloaded
        cases hloaded
      | noPort hvalue hport =>
        obtain ⟨s, -, hoverride, -⟩ := exists_of_loaded hloaded
        exact absurd hport (override_eq_ok_iff.mp hoverride _ hvalue)
      | invalid hs hfault' =>
        obtain rfl := Option.some.inj (hsettings.symm.trans hs)
        cases hfault.symm.trans hfault'
      | @resultFile file options s path hs hpath hthere =>
        obtain rfl := Option.some.inj (hsettings.symm.trans hs)
        obtain ⟨way, hway⟩ := exists_transport hfault options.target.here
        have hopen := goes_openHub_of_exists hpath hthere
        refine ⟨_, _, _, ?_, goes_perform_of_ok hloaded (goes_decided_andThen
          (check_eq_ok_iff.mpr hfault) (goes_decided_andThen hway (goes_failed hopen)))⟩
        exact List.forall_mem_append.mpr
          ⟨looks_fileReads file, List.forall_mem_singleton.mpr trivial⟩

/-! ## The program -/

/-- How the program ends, from what comes of its order. -/
def Outcome.ofResult : Except Failure Unit → Outcome
  | .ok () => .done
  | .error failure => .failed failure

theorem exitCode_failed_ne_zero (failure : Failure) : (Outcome.failed failure).exitCode ≠ 0 := by
  rw [Outcome.exitCode]
  decide

theorem exitCode_ofResult_eq_zero_iff {result : Except Failure Unit} :
    (Outcome.ofResult result).exitCode = 0 ↔ result = .ok () := by
  cases result with
  | ok => exact iff_of_true rfl rfl
  | error failure => exact iff_of_false (exitCode_failed_ne_zero failure) nofun

theorem goes_program {arguments : List String} {ops : List Action} {result : Except Failure Unit}
    (hread : read arguments = .ok order) (h : Goes answer (order.perform env).run w ops result w₁) :
    Goes answer (program arguments env) w ops (Outcome.ofResult result) w₁ := by
  rw [program, hread]
  refine goes_bind_done h ?_
  cases result <;> rfl

/-- **The course of the program** for a run that is not refused. -/
theorem goes_run {arguments : List String} {options : RunOptions} {s : Settings} {way : Transport}
    (hread : read arguments = .ok order) (hcommand : order.command = .run options)
    (h : ¬order.Refused answer env w) (hs : order.settings? answer env w = some s)
    (hway : transport s options.target.here = .ok way) :
    let looks := fileReads order.settingsFile ++ probes s.report.resultFile
    let lines := tableLines answer s way (after answer looks w)
    let stages := stages answer s way (after answer looks w)
    ∃ starts starts' w', (∀ action ∈ starts ++ starts', action.Starts) ∧
      Goes answer (program arguments env) w
        (looks ++ (starts ++ (lines.map .print ++ storing s.report.resultFile lines ++
          (starts' ++ (stages.printed options.showOutput).map .print))))
        (Outcome.ofResult (stages.verdict options.showOutput)) w' := by
  obtain ⟨file, command⟩ := order
  obtain rfl : command = .run options := hcommand
  obtain ⟨base, hloaded, hsettings, hfault⟩ := exists_settings h
  obtain rfl := Option.some.inj (hsettings.symm.trans hs)
  have hfree : ∀ path, (options.apply base).report.resultFile = some path →
      (answer (.probe path) (after answer (fileReads file) w)).1 = false := fun path hpath =>
    Bool.eq_false_iff.mpr fun hthere => h (.resultFile hsettings hpath hthere)
  obtain ⟨starts, starts', w', hstarts, hrun⟩ := goes_runSuite hway hfree options.showOutput
  simp only [after_append]
  refine ⟨starts, starts', w', hstarts, ?_⟩
  rw [List.append_assoc]
  exact goes_program hread (goes_perform_of_ok hloaded
    (goes_decided_andThen (check_eq_ok_iff.mpr hfault) hrun))

/-- **The verdict of the program**, for each command line that is a run or an installation, and whatever
the machine does. An order that is refused only looks at files, and fails. A run that is not refused
looks at files, starts programs for the tests, prints the table, writes the result file, if one is
wanted, and starts programs for the output of the tests and prints it, if that is wanted; so the table
is printed once, whatever becomes of the tests. It ends well just if there are records, and none of a
test that failed, the result file is written, and the output is read, if it is wanted. An installation
that is not refused ends well just if the suite is installed then. -/
theorem program_verdict (answer : (action : Action) → StateM ω action.Reply) (w : ω) (env : Environment)
    {arguments : List String} {order : Order} (hread : read arguments = .ok order) :
    (order.command.OnNode → order.Refused answer env w →
      ∃ failure looks w', (∀ action ∈ looks, action.Looks) ∧
        Goes answer (program arguments env) w looks (.failed failure) w' ∧
        (Outcome.failed failure).exitCode ≠ 0) ∧
    (∀ options, order.command = .run options → ¬order.Refused answer env w →
      ∃ s way, order.settings? answer env w = some s ∧ transport s options.target.here = .ok way ∧
        let looks := fileReads order.settingsFile ++ probes s.report.resultFile
        let lines := tableLines answer s way (after answer looks w)
        let stages := stages answer s way (after answer looks w)
        ∃ starts starts' outcome w', (∀ action ∈ starts ++ starts', action.Starts) ∧
          Goes answer (program arguments env) w
            (looks ++ (starts ++ (lines.map .print ++ storing s.report.resultFile lines ++
              (starts' ++ (stages.printed options.showOutput).map .print)))) outcome w' ∧
          (outcome.exitCode = 0 ↔
            (∃ records, stages.result = .ok records ∧ ∀ r ∈ records, r.status ≠ .failed) ∧
            stages.stored = .ok () ∧
            (options.showOutput = true → ∃ text, stages.output = .ok text))) ∧
    ∀ target, order.command = .install target → ¬order.Refused answer env w →
      ∃ s way, order.settings? answer env w = some s ∧ transport s target.here = .ok way ∧
        let looks := fileReads order.settingsFile
        let result :=
          ((runner s).ensureInstalled.runOn (node answer way) {} (after answer looks w)).1.1
        ∃ starts outcome w', (∀ action ∈ starts, action.Starts) ∧
          Goes answer (program arguments env) w (looks ++ (starts ++ result.toOption.toList.map fun _ =>
            .print ("LTP is installed at " ++ s.install.binaryPath))) outcome w' ∧
          (outcome.exitCode = 0 ↔ result = .ok ()) := by
  refine ⟨fun hcommand h => ?_, fun options hcommand h => ?_, fun target hcommand h => ?_⟩
  · obtain ⟨failure, looks, w', hlooks, hgoes⟩ := goes_refused hcommand h
    exact ⟨failure, looks, w', hlooks, goes_program hread hgoes, exitCode_failed_ne_zero failure⟩
  · obtain ⟨base, -, hsettings, hfault⟩ := exists_settings h
    obtain ⟨way, hway⟩ := exists_transport hfault options.target.here
    obtain ⟨starts, starts', w', hstarts, hgoes⟩ := goes_run hread hcommand h hsettings hway
    exact ⟨_, way, hsettings, hway, starts, starts', _, w', hstarts, hgoes,
      exitCode_ofResult_eq_zero_iff.trans Stages.verdict_eq_ok_iff⟩
  · obtain ⟨file, command⟩ := order
    obtain rfl : command = .install target := hcommand
    obtain ⟨base, hloaded, hsettings, hfault⟩ := exists_settings h
    obtain ⟨way, hway⟩ := exists_transport hfault target.here
    obtain ⟨starts, w', hstarts, hinstall⟩ :=
      goes_installSuite hway (after answer (fileReads file) w)
    refine ⟨_, way, hsettings, hway, starts, _, w', hstarts, goes_program hread
      (goes_perform_of_ok hloaded (goes_decided_andThen (check_eq_ok_iff.mpr hfault) hinstall)), ?_⟩
    exact exitCode_ofResult_eq_zero_iff.trans mapError_eq_ok_iff

/-- An environment without variables. -/
def bare : Environment := fun _ => none

/-- A run on this machine, with the default settings. -/
def hereOrder : Order := ⟨none, .run { target := { here := true } }⟩

theorem settings?_hereOrder : hereOrder.settings? Sandbox.perform bare {} = some {} := by
  decide +kernel

theorem not_refused_hereOrder : ¬hereOrder.Refused Sandbox.perform bare {} := by
  generalize horder : hereOrder = order
  intro h
  cases h with
  | unreadable | malformed => cases congrArg Order.settingsFile horder
  | noPort h => cases h
  | invalid h hfault =>
    obtain rfl := Option.some.inj ((horder ▸ settings?_hereOrder).symm.trans h)
    exact nomatch hfault.symm.trans (by decide +kernel : ({} : Settings).fault? = none)
  | resultFile h hpath =>
    obtain rfl := Option.some.inj ((horder ▸ settings?_hereOrder).symm.trans h)
    cases hpath

/-- A machine without a shell: the run is not refused, and fails. -/
theorem program_verdict_here : read ["run", "--local"] = .ok hereOrder ∧
    ¬hereOrder.Refused Sandbox.perform bare {} ∧ ∃ ops outcome w',
      Goes Sandbox.perform (program ["run", "--local"] bare) {} ops outcome w' ∧
        outcome.exitCode ≠ 0 := by
  have hread : read ["run", "--local"] = .ok hereOrder := by decide +kernel
  obtain ⟨-, hrun, -⟩ := program_verdict Sandbox.perform {} bare hread
  obtain ⟨s, way, hs, hway, starts, starts', outcome, w', -, hgoes, hexit⟩ :=
    hrun _ rfl not_refused_hereOrder
  obtain rfl := Option.some.inj (settings?_hereOrder.symm.trans hs)
  cases hway
  refine ⟨hread, not_refused_hereOrder, _, outcome, w', hgoes, fun hzero => ?_⟩
  obtain ⟨⟨records, hrecords, -⟩, -⟩ := hexit.mp hzero
  have htested : (tested Sandbox.perform {} (.shell "sh" 600000) {}).1.1.toOption = none := by
    decide +kernel
  have hrecords : (tested Sandbox.perform {} (.shell "sh" 600000) {}).1.1 = .ok records := hrecords
  rw [hrecords] at htested
  cases htested

end Testbed.CommandLine

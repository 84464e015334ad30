import Testbed.Proofs.CommandLine.Verdict
import Testbed.Proofs.Suite.Listing
import Testbed.Proofs.Text.Numeral

/-!
# Settings from three sources

A run takes its settings from a file, from variables of the environment and from its options. Each
source overrides the one before in some fields, by rules of its own.

* `NamesPort`: a text that names a port.
* `PortFrom`, `TextFrom`, `Overlays`: what three sources come to, field by field.
* `inForce`: the settings in force in a run, or why there are none.
* `Topic`: what can be given as a text, by an option or by a variable.

Results:
* `readPort?_eq_some_iff`: just the texts that name a port are read as it.
* `inForce_eq_ok_iff`, `inForce_eq_error_iff`: the settings in force, and when there are none.
* `override_override`: overriding settings again changes nothing.
* `inForce_give`: an option and a variable are in force alike.
* `perform_run`: what a run is carried out with.

Headline: **`run_overlays`**: all of it, for each file, environment and choice of options.
-/

namespace Testbed

namespace Environment

/-- The same environment with a variable set. -/
def set (env : Environment) (name value : String) : Environment := fun n =>
  if n = name then some value else env n

/-- A text that names a port: blanks at its ends aside, an unsigned numeral of 16 bits. -/
def NamesPort (value : String) (port : UInt16) : Prop :=
  Text.Numeral.Counts (Text.trim value.toList) port.toNat

variable {env : Environment} {name name' value : String} {port : UInt16}

theorem set_self : env.set name value name = some value := if_pos rfl

theorem set_of_ne (h : name' ≠ name) : env.set name value name' = env name' := if_neg h

theorem readPort?_eq_some_iff : readPort? value = some port ↔ NamesPort value port := by
  unfold readPort? NamesPort
  rw [Option.map_eq_some_iff]
  constructor
  · rintro ⟨n, hn, rfl⟩
    obtain ⟨hcounts, hlt⟩ := (Text.Numeral.read?_eq_some_iff (by decide)).mp hn
    have hvalue : n.toUInt16.toNat = n := Nat.mod_eq_of_lt hlt
    rwa [hvalue]
  · intro hcounts
    exact ⟨port.toNat, (Text.Numeral.read?_eq_some_iff (by decide)).mpr ⟨hcounts, port.toNat_lt⟩,
      UInt16.ofNat_toNat⟩

theorem readPort?_eq_none_iff : readPort? value = none ↔ ∀ port, ¬NamesPort value port := by
  simp only [Option.eq_none_iff_forall_ne_some, ne_eq, readPort?_eq_some_iff]

end Environment

namespace CommandLine

open Environment (NamesPort readPort?)
open Suite (Lists Names readDrive splitList)

/-- **The port in force**: that of the option, or else the one that the variable names, or else that of
the file. -/
inductive PortFrom (option : Option UInt16) (text : Option String) (file : UInt16) : UInt16 → Prop
  | given {port : UInt16} (h : option = some port) : PortFrom option text file port
  | named {value : String} {port : UInt16} (hoption : option = none) (h : text = some value)
      (hport : NamesPort value port) : PortFrom option text file port
  | kept (hoption : option = none) (h : text = none) : PortFrom option text file file

/-- **What is in force where a text may be given**: what the text stands for, or else, without one, what
the file says. -/
inductive TextFrom {α : Type} (Stands : String → α → Prop) (text : Option String) (file : α) : α → Prop
  | given {value : String} {a : α} (h : text = some value) (hstands : Stands value a) :
      TextFrom Stands text file a
  | kept (h : text = none) : TextFrom Stands text file file

/-- **Settings of a run from three sources**: what an option gives, or else a variable of the
environment, or else the file. -/
structure Overlays (options : RunOptions) (env : Environment) (file s : Settings) : Prop where
  host : s.node.host = (options.target.host.or (env "LTP_NODE_HOST")).getD file.node.host
  user : s.node.user = (options.target.user.or (env "LTP_NODE_USER")).getD file.node.user
  port : PortFrom options.target.port (env "LTP_NODE_PORT") file.node.port s.node.port
  tests : TextFrom Lists (options.tests.or (env "LTP_TESTS")) file.suite.tests s.suite.tests
  skipTests : TextFrom Lists (options.skip.or (env "LTP_SKIP_TESTS")) file.suite.skipTests
    s.suite.skipTests
  drive : TextFrom Names (options.drive.or (env "LTP_DRIVE")) file.suite.drive s.suite.drive
  /-- No variable is about these two. -/
  identityFile : s.node.identityFile = options.target.identity.or file.node.identityFile
  resultFile : s.report.resultFile = options.resultFile.or file.report.resultFile
  /-- All else is as the file says. -/
  rest : s = { file with
    node := { file.node with
      host := s.node.host
      user := s.node.user
      port := s.node.port
      identityFile := s.node.identityFile }
    suite := s.suite
    report := s.report }

/-- The settings in force in a run. -/
def inForce (options : RunOptions) (env : Environment) (file : Settings) :
    Except SettingsError Settings := (overridden env file).map options.apply

variable {options : RunOptions} {env : Environment} {file s : Settings}

/-- Settings overridden by an environment whose variable for the port holds one, if it is set. -/
theorem override_of_port (h : ∀ value, env "LTP_NODE_PORT" = some value → readPort? value ≠ none)
    (file : Settings) : file.override env =
      ({ file with
        node := { file.node with
          host := (env "LTP_NODE_HOST").getD file.node.host
          user := (env "LTP_NODE_USER").getD file.node.user
          port := ((env "LTP_NODE_PORT").bind readPort?).getD file.node.port }
        suite := {
          tests := ((env "LTP_TESTS").map splitList).getD file.suite.tests
          skipTests := ((env "LTP_SKIP_TESTS").map splitList).getD file.suite.skipTests
          drive := ((env "LTP_DRIVE").map readDrive).getD file.suite.drive } }, .ok ()) := by
  unfold Settings.override Settings.overridePort
  cases hvalue : env "LTP_NODE_PORT" with
  | none => rfl
  | some value =>
    rw [Option.bind_some]
    cases hport : readPort? value with
    | none => exact absurd hport (h value hvalue)
    | some port =>
      simp only [hport]
      rfl

/-- Settings overridden by an environment whose variable for the port holds none. -/
theorem override_of_noPort {value : String} (hvalue : env "LTP_NODE_PORT" = some value)
    (h : readPort? value = none) (file : Settings) :
    file.override env = (file.overrideLogin env, .error (.invalidPort value)) := by
  unfold Settings.override Settings.overridePort
  simp only [hvalue, h]

/-! ## The settings in force -/

variable {s' : Settings} {e : SettingsError} {option : Option UInt16} {text : Option String}
  {kept port port' : UInt16}

theorem portFrom_iff (h : ∀ value, text = some value → readPort? value ≠ none) :
    PortFrom option text kept port ↔ port = (option.or (text.bind readPort?)).getD kept := by
  cases option with
  | some given =>
    constructor
    · rintro (⟨⟨⟩⟩ | ⟨⟨⟩⟩ | ⟨⟨⟩⟩)
      rfl
    · rintro rfl
      exact .given rfl
  | none =>
    rw [Option.none_or]
    cases text with
    | none =>
      constructor
      · rintro (⟨⟨⟩⟩ | ⟨-, ⟨⟩⟩ | -)
        rfl
      · rintro rfl
        exact .kept rfl rfl
    | some value =>
      obtain ⟨named, hnamed⟩ := Option.ne_none_iff_exists'.mp (h value rfl)
      rw [Option.bind_some, hnamed, Option.getD_some]
      constructor
      · rintro (⟨⟨⟩⟩ | ⟨-, ⟨⟩, hport⟩ | ⟨-, ⟨⟩⟩)
        exact Option.some.inj ((Environment.readPort?_eq_some_iff.mpr hport).symm.trans hnamed)
      · rintro rfl
        exact .named rfl rfl (Environment.readPort?_eq_some_iff.mp hnamed)

section

variable {α : Type} {Stands : String → α → Prop} {read : String → α} {file a a' : α}

theorem textFrom_none_iff : TextFrom Stands none file a ↔ a = file := by
  constructor
  · rintro (⟨⟨⟩⟩ | -)
    rfl
  · rintro rfl
    exact .kept rfl

theorem textFrom_some_iff {value : String} : TextFrom Stands (some value) file a ↔ Stands value a := by
  constructor
  · rintro (⟨⟨⟩, hstands⟩ | ⟨⟨⟩⟩)
    exact hstands
  · exact .given rfl

/-- What a text stands for is read, if one is given. -/
theorem textFrom_iff (hread : ∀ {value a}, read value = a ↔ Stands value a) :
    TextFrom Stands text file a ↔ a = (text.map read).getD file := by
  cases text with
  | none => exact textFrom_none_iff
  | some value => exact textFrom_some_iff.trans (hread.symm.trans eq_comm)

theorem TextFrom.unique (hread : ∀ {value a}, read value = a ↔ Stands value a)
    (h : TextFrom Stands text file a) (h' : TextFrom Stands text file a') : a = a' :=
  ((textFrom_iff hread).mp h).trans ((textFrom_iff hread).mp h').symm

end

/-- What options make of overridden settings has the three sources. -/
theorem overlays_apply (h : ∀ value, env "LTP_NODE_PORT" = some value → readPort? value ≠ none) :
    Overlays options env file (options.apply (file.override env).1) := by
  rw [override_of_port h]
  constructor
  case port => exact (portFrom_iff h).mpr Option.getD_or.symm
  case host | user => exact Option.getD_or.symm
  case tests | skipTests =>
    rw [textFrom_iff Suite.splitList_eq_iff, Option.map_or]
    exact Option.getD_or.symm
  case drive =>
    rw [textFrom_iff Suite.readDrive_eq_iff, Option.map_or]
    exact Option.getD_or.symm
  case identityFile | resultFile | rest => rfl

/-- Three sources leave no choice. -/
theorem Overlays.unique (h : ∀ value, env "LTP_NODE_PORT" = some value → readPort? value ≠ none)
    (hs : Overlays options env file s) (hs' : Overlays options env file s') : s = s' := by
  have hport : s.node.port = s'.node.port :=
    ((portFrom_iff h).mp hs.port).trans ((portFrom_iff h).mp hs'.port).symm
  have htests : s.suite.tests = s'.suite.tests := hs.tests.unique Suite.splitList_eq_iff hs'.tests
  have hskip : s.suite.skipTests = s'.suite.skipTests :=
    hs.skipTests.unique Suite.splitList_eq_iff hs'.skipTests
  have hdrive : s.suite.drive = s'.suite.drive := hs.drive.unique Suite.readDrive_eq_iff hs'.drive
  have hsuite : s.suite = s'.suite := by
    show Suite.Settings.mk s.suite.tests s.suite.skipTests s.suite.drive =
      Suite.Settings.mk s'.suite.tests s'.suite.skipTests s'.suite.drive
    rw [htests, hskip, hdrive]
  have hreport : s.report = s'.report := by
    show Report.Settings.mk s.report.resultFile = Report.Settings.mk s'.report.resultFile
    rw [hs.resultFile, hs'.resultFile]
  rw [hs.rest, hs'.rest, hs.host, hs.user, hport, hs.identityFile, hs'.host, hs'.user, hs'.identityFile,
    hsuite, hreport]

/-- **The settings in force** are those of the three sources, if the variable for the port holds one. -/
theorem inForce_eq_ok_iff : inForce options env file = .ok s ↔
    (∀ value, env "LTP_NODE_PORT" = some value → ∃ port, NamesPort value port) ∧
      Overlays options env file s := by
  have hnames : (∀ value, env "LTP_NODE_PORT" = some value → ∃ port, NamesPort value port) ↔
      ∀ value, env "LTP_NODE_PORT" = some value → readPort? value ≠ none := by
    simp only [ne_eq, Environment.readPort?_eq_none_iff, not_forall, not_not]
  rw [hnames]
  constructor
  · intro h
    rw [inForce, overridden] at h
    cases houtcome : (file.override env).2 with
    | error e =>
      rw [houtcome] at h
      cases h
    | ok =>
      rw [houtcome] at h
      cases h
      have hport := override_eq_ok_iff.mp houtcome
      exact ⟨hport, overlays_apply hport⟩
  · rintro ⟨hport, hs⟩
    rw [hs.unique hport (overlays_apply hport), inForce, overridden, override_eq_ok_iff.mpr hport]
    rfl

/-- The variable for the port holds one, if it is set, or it does not. -/
theorem port_or_noPort (env : Environment) :
    (∀ value, env "LTP_NODE_PORT" = some value → readPort? value ≠ none) ∨
      ∃ value, env "LTP_NODE_PORT" = some value ∧ readPort? value = none := by
  cases env "LTP_NODE_PORT" with
  | none => exact Or.inl nofun
  | some value =>
    by_cases h : readPort? value = none
    · exact Or.inr ⟨value, rfl, h⟩
    · refine Or.inl ?_
      rintro _ ⟨⟩
      exact h

theorem inForce_of_noPort {value : String} (hvalue : env "LTP_NODE_PORT" = some value)
    (h : readPort? value = none) : inForce options env file = .error (.invalidPort value) := by
  rw [inForce, overridden, override_of_noPort hvalue h]
  rfl

/-- The only failure: the variable for the port holds none. The host and the user are overridden then,
and nothing else is. -/
theorem inForce_eq_error_iff : inForce options env file = .error e ↔
    ∃ value, env "LTP_NODE_PORT" = some value ∧ (∀ port, ¬NamesPort value port) ∧
      e = .invalidPort value ∧ file.override env = (file.overrideLogin env, .error e) := by
  simp only [← Environment.readPort?_eq_none_iff]
  rcases port_or_noPort env with hport | ⟨value, hvalue, hnone⟩
  · refine iff_of_false (fun h => ?_) ?_
    · rw [inForce, overridden, override_eq_ok_iff.mpr hport] at h
      cases h
    · rintro ⟨value, hvalue, hnone, -⟩
      exact hport value hvalue hnone
  · rw [inForce_of_noPort hvalue hnone]
    constructor
    · rintro ⟨⟩
      exact ⟨value, hvalue, hnone, rfl, override_of_noPort hvalue hnone file⟩
    · rintro ⟨value', hvalue', -, rfl, -⟩
      rw [Option.some.inj (hvalue.symm.trans hvalue')]

/-- An environment overrides settings once and for all. -/
theorem override_override (env : Environment) (file : Settings) :
    (file.override env).1.override env = file.override env := by
  have hkeep : ∀ {α : Type} (o : Option α) (a : α), o.getD (o.getD a) = o.getD a := by
    intro α o a
    cases o <;> rfl
  rcases port_or_noPort env with hport | ⟨value, hvalue, hnone⟩
  · rw [override_of_port hport, override_of_port hport]
    simp only [hkeep]
  · rw [override_of_noPort hvalue hnone, override_of_noPort hvalue hnone]
    simp only [Settings.overrideLogin, hkeep]

/-! ## An option or a variable -/

/-- What can be given as a text, by an option or by a variable. -/
inductive Topic where
  | tests
  | skip
  | drive
  deriving DecidableEq

namespace Topic

/-- The variable. -/
def variableName : Topic → String
  | tests => "LTP_TESTS"
  | skip => "LTP_SKIP_TESTS"
  | drive => "LTP_DRIVE"

/-- The options with this one given, or not. -/
def give (value : Option String) (options : RunOptions) : Topic → RunOptions
  | tests => { options with tests := value }
  | skip => { options with skip := value }
  | drive => { options with drive := value }

variable {topic other : Topic} {name value : String}

theorem variableName_ne (h : other ≠ topic) : other.variableName ≠ topic.variableName := by
  revert h
  cases other <;> cases topic <;> decide

/-- Each topic has a variable of its own. -/
theorem set_variableName (env : Environment) (value : String) (topic other : Topic) :
    env.set topic.variableName value other.variableName =
      if other = topic then some value else env other.variableName := by
  by_cases h : other = topic
  · rw [if_pos h, h, Environment.set_self]
  · rw [if_neg h, Environment.set_of_ne (variableName_ne h)]

/-- None is about the node. -/
theorem set_of_node (env : Environment) (value : String) (topic : Topic)
    (h : name ∈ ["LTP_NODE_HOST", "LTP_NODE_USER", "LTP_NODE_PORT"]) :
    env.set topic.variableName value name = env name := by
  refine Environment.set_of_ne ?_
  revert name
  cases topic <;> decide

end Topic

/-- A variable is in force as the option is. -/
theorem inForce_give (topic : Topic) (value : String) (options : RunOptions) (env : Environment)
    (file : Settings) : inForce (topic.give (some value) options) env file =
      inForce (topic.give none options) (env.set topic.variableName value) file := by
  have hport : env.set topic.variableName value "LTP_NODE_PORT" = env "LTP_NODE_PORT" :=
    topic.set_of_node env value (by simp)
  rcases port_or_noPort env with h | ⟨text, htext, hnone⟩
  · have hhost : env.set topic.variableName value "LTP_NODE_HOST" = env "LTP_NODE_HOST" :=
      topic.set_of_node env value (by simp)
    have huser : env.set topic.variableName value "LTP_NODE_USER" = env "LTP_NODE_USER" :=
      topic.set_of_node env value (by simp)
    have htests : env.set topic.variableName value "LTP_TESTS" =
        if .tests = topic then some value else env "LTP_TESTS" := topic.set_variableName env value .tests
    have hskip : env.set topic.variableName value "LTP_SKIP_TESTS" =
        if .skip = topic then some value else env "LTP_SKIP_TESTS" := topic.set_variableName env value .skip
    have hdrive : env.set topic.variableName value "LTP_DRIVE" =
        if .drive = topic then some value else env "LTP_DRIVE" := topic.set_variableName env value .drive
    rw [inForce, inForce, overridden, overridden, override_of_port h,
      override_of_port (by rwa [hport]), hhost, huser, hport, htests, hskip, hdrive]
    cases topic <;> simp only [Topic.give, RunOptions.apply, Target.apply, Except.map, Option.map_some,
      Option.map_none, Option.getD_some, Option.getD_none, reduceCtorEq, if_true, if_false]
  · rw [inForce_of_noPort htext hnone, inForce_of_noPort (hport.trans htext) hnone]

/-! ## Runs -/

/-- Settings are loaded from the file, and then overridden. -/
theorem load_eq (path : Option String) (env : Environment) : Settings.load path env =
    Settings.load path (fun _ => none) >>= fun file => pure (file >>= overridden env) := by
  unfold Settings.load
  simp only [override_eq]
  have hnone : ∀ base : Except SettingsError Settings, base >>= overridden (fun _ => none) = base := by
    intro base
    cases base <;> rfl
  cases path with
  | none => rfl
  | some path =>
    simp only [hnone, bind_pure]

section

variable {ε α β : Type} {failure : ε → Failure} {f : α → Task β}

theorem decided_ok_bind (a : α) : decided failure (.ok a) >>= f = f a :=
  pure_bind a f

theorem decided_error_bind {f' : α → Task β} (e : ε) :
    decided failure (.error e) >>= f = decided failure (.error e) >>= f' := rfl

theorem run_attempt (script : HostScript (Except ε α)) :
    (attempt failure script).run = script >>= fun outcome => pure (outcome.mapError failure) := by
  unfold attempt always decided
  rw [ExceptT.run_bind, ExceptT.run_lift, map_eq_pure_bind, bind_assoc]
  refine congrArg _ (funext fun outcome => ?_)
  rw [pure_bind]
  rfl

/-- An attempt whose outcome is gone on with. -/
theorem attempt_bind_decided (script : HostScript (Except ε α)) (f : α → Except ε β) :
    attempt failure (script >>= fun outcome => pure (outcome >>= f)) =
      attempt failure script >>= fun a => decided failure (f a) := by
  refine ExceptT.ext ?_
  rw [ExceptT.run_bind, run_attempt, run_attempt, bind_assoc, bind_assoc]
  refine congrArg _ (funext fun outcome => ?_)
  rw [pure_bind, pure_bind]
  cases outcome <;> rfl

end

/-- **A run** is carried out with the settings in force, if they can work. -/
theorem perform_run (path : Option String) (options : RunOptions) (env : Environment) :
    Order.perform ⟨path, .run options⟩ env = (do
      let file ← attempt .settings (Settings.load path fun _ => none)
      let s ← decided .settings (inForce options env file)
      decided .settings s.check
      runSuite s options.target.here options.showOutput) := by
  unfold Order.perform
  rw [load_eq, attempt_bind_decided, bind_assoc]
  refine congrArg _ (funext fun file => ?_)
  unfold inForce
  cases overridden env file with
  | error e => exact decided_error_bind e
  | ok s =>
    have hmap : (Except.ok s : Except SettingsError Settings).map options.apply =
        .ok (options.apply s) := rfl
    rw [hmap, decided_ok_bind, decided_ok_bind]
    rfl

/-- **The settings in force in a run.** Whatever the file, the environment and the options are, an
option counts more than a variable, and a variable more than the file, field by field, and all that no
option and no variable is about is as the file says; the only failure is a variable for the port that
holds none, which leaves all but the host and the user as they are. An environment overrides settings
once and for all. A text has the same effect on a run, whether it is given by an option or by a
variable, and what a run is carried out with are these settings. -/
theorem run_overlays (options : RunOptions) (env : Environment) (path : Option String) :
    (∀ file s, inForce options env file = .ok s ↔
      (∀ value, env "LTP_NODE_PORT" = some value → ∃ port, NamesPort value port) ∧
        Overlays options env file s) ∧
    (∀ file e, inForce options env file = .error e ↔ ∃ value, env "LTP_NODE_PORT" = some value ∧
      (∀ port, ¬NamesPort value port) ∧ e = .invalidPort value ∧
        file.override env = ({ file with node := { file.node with
          host := (env "LTP_NODE_HOST").getD file.node.host
          user := (env "LTP_NODE_USER").getD file.node.user } }, .error e)) ∧
    (∀ file : Settings, (file.override env).1.override env = file.override env) ∧
    (Order.perform ⟨path, .run options⟩ env = (do
      let file ← attempt .settings (Settings.load path fun _ => none)
      let s ← decided .settings (inForce options env file)
      decided .settings s.check
      runSuite s options.target.here options.showOutput)) ∧
    ∀ (topic : Topic) (value : String),
      Order.perform ⟨path, .run (topic.give (some value) options)⟩ env =
        Order.perform ⟨path, .run (topic.give none options)⟩ (env.set topic.variableName value) := by
  refine ⟨fun file s => inForce_eq_ok_iff, fun file e => inForce_eq_error_iff, override_override env,
    perform_run path options env, fun topic value => ?_⟩
  rw [perform_run, perform_run]
  simp only [inForce_give topic value options env]
  cases topic <;> rfl

example : (inForce { tests := some "abs01, abs02" }
      (Environment.ofList [("LTP_NODE_PORT", " 2222\n"), ("LTP_TESTS", "abs03"), ("LTP_DRIVE", " ")])
      {}).map (fun s => (s.node.port, s.suite.tests, s.suite.drive)) =
    .ok (2222, ["abs01", "abs02"], none) := by decide +kernel

end CommandLine

end Testbed

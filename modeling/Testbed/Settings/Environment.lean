import Testbed.Settings
import Testbed.Text.Numeral

/-!
# Settings from the environment

Some settings are overridden by variables of the environment. The variables are looked at in a fixed
order; if the one for the port holds no port, what was set before it stays and nothing after it is
set.
-/

namespace Testbed

/-- The variables of an environment. -/
abbrev Environment := String → Option String

namespace Environment

/-- The environment of a list of variables. -/
def ofList (values : List (String × String)) : Environment := fun name =>
  values.lookup name

/-- The port that a text names. -/
def readPort? (value : String) : Option UInt16 :=
  (Text.Numeral.read? Ssh.portLimit (Text.trim value.toList)).map Nat.toUInt16

end Environment

namespace Settings

/-- The settings with the node's host and user from the environment. -/
def overrideLogin (env : Environment) (s : Settings) : Settings :=
  { s with node := { s.node with
      host := (env "LTP_NODE_HOST").getD s.node.host
      user := (env "LTP_NODE_USER").getD s.node.user } }

/-- The settings with the node's port from the environment, or the text that is no port. -/
def overridePort (env : Environment) (s : Settings) : Except String Settings :=
  match env "LTP_NODE_PORT" with
  | none => .ok s
  | some value =>
    match Environment.readPort? value with
    | some port => .ok { s with node := { s.node with port := port } }
    | none => .error value

/-- The settings with the choice of tests from the environment. -/
def overrideSuite (env : Environment) (s : Settings) : Settings :=
  { s with suite := {
      tests := ((env "LTP_TESTS").map Suite.splitList).getD s.suite.tests
      skipTests := ((env "LTP_SKIP_TESTS").map Suite.splitList).getD s.suite.skipTests
      drive := ((env "LTP_DRIVE").map Suite.readDrive).getD s.suite.drive } }

/-- The settings overridden by the environment. -/
def override (env : Environment) (s : Settings) : Settings × Except SettingsError Unit :=
  let s := s.overrideLogin env
  match s.overridePort env with
  | .error value => (s, .error (.invalidPort value))
  | .ok s => (s.overrideSuite env, .ok ())

end Settings

end Testbed

import Testbed.Settings.Document
import Testbed.Settings.Environment

/-!
# Loading settings

The settings of a command come from a file, or are the default, and are then overridden by the
environment.
-/

namespace Testbed.Settings

/-- The settings that the text of the file at `path` describes. -/
def ofText (path text : String) : Except SettingsError Settings :=
  match read? text with
  | some s => .ok s
  | none => .error (.malformed path)

/-- The settings of the file at a path. -/
def ofFile (path : String) : HostScript (Except SettingsError Settings) := do
  match ← Host.read path with
  | .error fault => pure (.error (.unreadable path fault))
  | .ok text => pure (ofText path text)

/-- The settings of a file, if one is named, overridden by the environment. -/
def load (path : Option String) (env : Environment) :
    HostScript (Except SettingsError Settings) := do
  let base ← match path with
    | some path => ofFile path
    | none => pure (.ok {})
  pure do
    let (s, outcome) := (← base).override env
    outcome
    pure s

end Testbed.Settings

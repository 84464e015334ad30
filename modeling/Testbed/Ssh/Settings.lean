import Testbed.Text.Blank
import Testbed.Text.Numeral

/-!
# Reaching a node over ssh

`Settings` say which node to log in to and how; `Settings.fault?` is the first reason why they
cannot work, and `Settings.arguments` is the argument vector for the ssh client.
-/

namespace Testbed.Ssh

/-- The number of ports. -/
def portLimit : Nat := Text.Numeral.bound 16

/-- How to log in to a node. -/
structure Settings where
  host : String := "localhost"
  port : UInt16 := 22
  /-- The user to log in as; the ssh client chooses if it is empty. -/
  user : String := "root"
  /-- The file of the private key. -/
  identityFile : Option String := none
  connectTimeoutSecs : Nat := 30
  /-- How long a command may take that sets no limit of its own. -/
  defaultTimeoutSecs : Nat := 600
  /-- Whether a host whose key is not known is refused. -/
  strictHostKeyChecking : Bool := false
  /-- Further options of the ssh client. -/
  extraOptions : List String := []
  deriving Repr, DecidableEq

/-- Why settings cannot work. -/
inductive Fault where
  | emptyHost
  | blankInHost (host : String)
  | zeroPort
  | zeroConnectTimeout
  | zeroDefaultTimeout
  | emptyIdentityFile
  deriving Repr, DecidableEq

/-- The wording of a fault. -/
def Fault.message : Fault → String
  | .emptyHost => "Host cannot be empty"
  | .blankInHost host => s!"Host '{host}' must not contain whitespace"
  | .zeroPort => "Port must be greater than 0"
  | .zeroConnectTimeout => "Connect timeout must be greater than 0"
  | .zeroDefaultTimeout => "Default command timeout must be greater than 0"
  | .emptyIdentityFile => "Identity file path cannot be empty"

namespace Settings

/-- The node as the ssh client names it. -/
def destination (s : Settings) : String :=
  if s.user.isEmpty then s.host else s.user ++ "@" ++ s.host

/-- The settings with another limit for connecting, of which whole seconds count. -/
def withConnectLimit (s : Settings) (limitMs : Nat) : Settings :=
  { s with connectTimeoutSecs := limitMs / 1000 }

/-- The settings with another default limit of commands, of which whole seconds count. -/
def withDefaultLimit (s : Settings) (limitMs : Nat) : Settings :=
  { s with defaultTimeoutSecs := limitMs / 1000 }

/-- The first reason why the settings cannot work. -/
def fault? (s : Settings) : Option Fault :=
  if Text.isBlankText s.host then some .emptyHost
  else if s.host.toList.any Text.isBlank then some (.blankInHost s.host)
  else if s.port = 0 then some .zeroPort
  else if s.connectTimeoutSecs = 0 then some .zeroConnectTimeout
  else if s.defaultTimeoutSecs = 0 then some .zeroDefaultTimeout
  else if s.identityFile = some "" then some .emptyIdentityFile
  else none

/-- The values of the `-o` options. -/
def options (s : Settings) : List String :=
  ["BatchMode=yes", "ConnectTimeout=" ++ toString s.connectTimeoutSecs] ++
    if s.strictHostKeyChecking then [] else ["StrictHostKeyChecking=accept-new"]

/-- An `-o` option. -/
def optionArguments (value : String) : List String := ["-o", value]

/-- The argument vector that makes the ssh client run `line` on the node. -/
def arguments (s : Settings) (line : String) : List String :=
  ["-p", toString s.port.toNat] ++ s.options.flatMap optionArguments ++
    s.identityFile.toList.flatMap (fun path => ["-i", path]) ++
    s.extraOptions.flatMap optionArguments ++ [s.destination, "--", line]

end Settings

end Testbed.Ssh

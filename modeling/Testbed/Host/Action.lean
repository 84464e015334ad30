import Testbed.Node.Transport

/-!
# What is done on this machine

The actions of the command line on the machine it runs on: starting programs, printing, and looking
at, reading and writing files. A `HostScript` is a computation that does nothing else.
-/

namespace Testbed

namespace Host

/-- Why a file cannot be used. -/
inductive FileFault where
  | notFound
  | permissionDenied
  | notDirectory
  | isDirectory
  | nameTooLong
  | nulInPath
  | notUtf8
  | other (reason : String)
  deriving Repr, DecidableEq

/-- The wording of a fault. -/
def FileFault.message : FileFault → String
  | .notFound => "No such file or directory (os error 2)"
  | .permissionDenied => "Permission denied (os error 13)"
  | .notDirectory => "Not a directory (os error 20)"
  | .isDirectory => "Is a directory (os error 21)"
  | .nameTooLong => "File name too long (os error 36)"
  | .nulInPath => "file name contained an unexpected NUL byte"
  | .notUtf8 => "stream did not contain valid UTF-8"
  | .other reason => reason

/-- An action on this machine. -/
inductive Action where
  /-- Starts a program and waits for its end, at most as long as it may run. -/
  | start (invocation : Invocation)
  /-- Prints a line. -/
  | print (line : String)
  /-- Looks whether something stands at a path. -/
  | probe (path : String)
  /-- Reads the text of a file. -/
  | read (path : String)
  /-- Makes a text the whole content of a file. -/
  | write (path text : String)
  deriving Repr, DecidableEq

/-- What an action yields. -/
abbrev Action.Reply : Action → Type
  | .start _ => Ending
  | .print _ => Unit
  | .probe _ => Bool
  | .read _ => Except FileFault String
  | .write _ _ => Except FileFault Unit

end Host

/-- A computation that acts on this machine. -/
abbrev HostScript := Script Host.Action Host.Action.Reply

namespace Host

/-- Starts a program and waits for its end. -/
def start (invocation : Invocation) : HostScript Ending := Script.question (Action.start invocation)

/-- Prints a line. -/
def print (line : String) : HostScript Unit := Script.question (Action.print line)

/-- Whether something stands at a path. -/
def probe (path : String) : HostScript Bool := Script.question (Action.probe path)

/-- The text of a file. -/
def read (path : String) : HostScript (Except FileFault String) :=
  Script.question (Action.read path)

/-- Makes a text the whole content of a file. -/
def write (path text : String) : HostScript (Except FileFault Unit) :=
  Script.question (Action.write path text)

end Host

end Testbed

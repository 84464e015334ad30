import Testbed.Node.Session

/-!
# Files on a node

Looking at and changing files on a node, each as one command whose operands are quoted. Whatever
reads or changes state is forced, so that no remembered result stands in for it; only `readText`
leaves that to its caller.
-/

namespace Testbed.Node

/-- A command that changes the node: forced, and elevated if asked for. -/
def change (command : String) (elevated : Bool) : Request := ⟨command, elevated, true, none, none⟩

/-- Runs a command that changes the node; it has to end well. -/
def perform (command : String) (elevated : Bool) : NodeScript NodeError Unit := do
  let _ ← executeChecked (change command elevated)

/-- Whether something stands at a path; an exit code of the probe other than 0 and 1 is a failure,
reported with the path as it was given. -/
def isPresent (path : String) (elevated : Bool) : NodeScript NodeError Bool := do
  let output ← execute (change ("test -e " ++ Shell.quote path) elevated)
  if output.exitCode = 0 then pure true
  else if output.exitCode = 1 then pure false
  else throw (.commandFailed ("test -e " ++ path) output.exitCode (Text.trimmed output.stderr))

/-- The content of a file. -/
def readText (path : String) (elevated forced : Bool) : NodeScript NodeError String := do
  let output ← executeChecked ⟨"cat " ++ Shell.quote path, elevated, forced, none, none⟩
  pure output.stdout

/-- The description of the operating system; it may be a remembered one. -/
def osRelease : NodeScript NodeError String := readText "/etc/os-release" false false

/-- Makes `content` the whole content of a file, with no line end added. -/
def writeFile (path content : String) (elevated : Bool) : NodeScript NodeError Unit :=
  perform ("printf '%s' " ++ Shell.quote content ++ " > " ++ Shell.quote path) elevated

/-- Removes a file; that it is missing is no failure. -/
def removeFile (path : String) (elevated : Bool) : NodeScript NodeError Unit :=
  perform ("rm -f " ++ Shell.quote path) elevated

/-- Removes a directory with all it holds. -/
def removeTree (path : String) (elevated : Bool) : NodeScript NodeError Unit :=
  perform ("rm -rf " ++ Shell.quote path) elevated

/-- Creates a directory and those above it. -/
def makeDirectory (path : String) (elevated : Bool) : NodeScript NodeError Unit :=
  perform ("mkdir -p " ++ Shell.quote path) elevated

/-- Changes the access rights of a directory and of all it holds. -/
def changeModes (path mode : String) (elevated : Bool) : NodeScript NodeError Unit :=
  perform ("chmod -R " ++ Shell.quote mode ++ " " ++ Shell.quote path) elevated

end Testbed.Node

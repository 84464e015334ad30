import Testbed.CommandLine.Program

/-!
# The program

Carries out the actions of the command line on the machine it runs on. Starting other programs is
left to whoever runs this one: the command line to start is written to standard error, and how the
program ended is read from standard input.
-/

namespace Testbed.Main

open Host

/-- The variables of the environment that settings are read from. -/
def variableNames : List String :=
  ["LTP_NODE_HOST", "LTP_NODE_USER", "LTP_NODE_PORT", "LTP_TESTS", "LTP_SKIP_TESTS", "LTP_DRIVE"]

/-- What help shows. -/
def usage : String :=
  "usage: testbed [-c FILE] [-v] COMMAND\n" ++
  "  run          run the suite\n" ++
  "  install      install the suite on the node if it is missing\n" ++
  "  parse LOG    read a result log\n" ++
  "  show-config  print the settings in force"

/-- The fault that an error of the system stands for. -/
def faultOf : IO.Error → FileFault
  | .noFileOrDirectory .. => .notFound
  | .permissionDenied .. => .permissionDenied
  | e => .other (toString e)

/-- The outcome of an action on a file. -/
def attemptFile {α : Type} (action : IO α) : IO (Except FileFault α) := do
  try pure (.ok (← action)) catch e => pure (.error (faultOf e))

/-- Whether something stands at a path. -/
def probe (path : String) : IO Bool := do
  match ← attemptFile (IO.FS.Handle.mk path .read) with
  | .error .notFound => pure false
  | _ => pure true

/-- The text of a file. -/
def read (path : String) : IO (Except FileFault String) := do
  match ← attemptFile (IO.FS.readBinFile path) with
  | .error fault => pure (.error fault)
  | .ok bytes => pure ((String.fromUTF8? bytes).elim (.error .notUtf8) .ok)

/-- Takes so many bytes off a stream, or what is left of it. -/
def takeBytes (input : IO.FS.Stream) : (missing : Nat) → ByteArray → IO ByteArray
  | 0, bytes => pure bytes
  | missing + 1, bytes => do
    let next ← input.read 1
    if next.isEmpty then pure bytes else takeBytes input missing (bytes ++ next)

/-- Shows a command line and reads how the program ended: `exit CODE OUT ERR` or `signal OUT ERR`,
followed by as many bytes of its output and of its messages, or `overran`, or a reason why it did
not start. -/
def start (invocation : Invocation) : IO Ending := do
  let line := (invocation.program :: invocation.arguments).map Shell.quote
  IO.eprintln ("start: " ++ String.intercalate " " line)
  let input ← IO.getStdin
  let reply := (← input.getLine).trimAscii.toString
  let collect (exitCode : Option Int32) (out err : String) : IO Ending := do
    let stdout ← takeBytes input (out.toNat?.getD 0) .empty
    let stderr ← takeBytes input (err.toNat?.getD 0) .empty
    pure (.ended exitCode stdout stderr)
  match reply.splitOn " " with
  | ["exit", code, out, err] => collect (Text.Numeral.readInt32? code.toList) out err
  | ["signal", out, err] => collect none out err
  | ["overran"] => pure .overran
  | _ => pure (.notStarted reply)

/-- Carries an action out. -/
def perform : (action : Action) → IO action.Reply
  | .start invocation => start invocation
  | .print line => IO.println line
  | .probe path => probe path
  | .read path => read path
  | .write path text => attemptFile (IO.FS.writeFile path text)

/-- Says how the program ends, where there is something to say. -/
def report : CommandLine.Outcome → IO Unit
  | .done => pure ()
  | .failed failure => IO.eprintln ("Error: " ++ failure.message)
  | .stopped .help => IO.println usage
  | .stopped .usage => IO.eprintln usage

end Testbed.Main

/-- Runs the program with its arguments and the environment. -/
def main (arguments : List String) : IO UInt32 := do
  let values ← Testbed.Main.variableNames.mapM fun name => do
    pure ((← IO.getEnv name).map (name, ·))
  let env := Testbed.Environment.ofList (values.filterMap id)
  let outcome ← (Testbed.CommandLine.program arguments env).run Testbed.Main.perform
  Testbed.Main.report outcome
  pure outcome.exitCode.toUInt32

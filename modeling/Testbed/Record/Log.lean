import Testbed.Record
import Testbed.Text.Blank
import Testbed.Text.DecimalDigit
import Testbed.Text.Numeral
import Testbed.Text.Pattern

/-!
# Result logs

Two patterns are searched for in the log of a run, each of which fits whole lines:

* `architectureLine`: the line that names the architecture, of which there must be exactly one;
* `testLine`: the line of a test, with its name, a status in capitals and an exit value.

All other lines are passed over. Gaps between the fields of a line are spaces and tabs, and a line
may end in a carriage return. `Log.read` makes a record of every test line; a wrong number of
architecture lines is reported before anything that is wrong with a test.
-/

namespace Testbed

/-- Why a log is refused. -/
inductive LogError where
  | missingArchitecture
  | duplicateArchitecture (count : Nat)
  | unknownStatus (code : String)
  | invalidExitValue (name value : String)
  deriving Repr, DecidableEq

/-- The wording of an error. -/
def LogError.message : LogError → String
  | .missingArchitecture => "Result log has no 'Machine Architecture' line"
  | .duplicateArchitecture count =>
    s!"Result log has {count} 'Machine Architecture' lines, expected one"
  | .unknownStatus code => s!"Unknown status: {code}"
  | .invalidExitValue name value => s!"Invalid exit value '{value}' for test {name}"

namespace Log

open Text (Pattern isGap)

/-- What a line of a test says. -/
structure Entry where
  name : String
  /-- The status as it is written. -/
  code : String
  /-- The exit value as it is written. -/
  exitText : String
  deriving Repr, DecidableEq

/-- The characters of which a status is made. -/
def isCapital (c : Char) : Bool := 'A' ≤ c && c ≤ 'Z'

/-- The parts of the line that names the architecture; the group is the name. -/
def architectureParts : List Pattern :=
  [.many isGap, .literal "Machine Architecture:".toList, .many isGap,
    .group (.seq (.one fun c => !Text.isBlank c) (.few fun c => c != '\r' && c != '\n')),
    .many isGap, .optional (· == '\r')]

/-- The line that names the architecture. -/
def architectureLine : Pattern := .line architectureParts

/-- The parts of the line of a test; the groups are the name, the status and the exit value. The
status is any word in capitals, so that an unknown one is noticed. -/
def testParts : List Pattern :=
  [.many isGap, .group (.oneOrMore fun c => !Text.isBlank c), .oneOrMore isGap,
    .group (.oneOrMore isCapital), .oneOrMore isGap,
    .group (.seq (.optional (· == '-')) (.oneOrMore Text.isDecimalDigit)),
    .many isGap, .optional (· == '\r')]

/-- The line of a test. -/
def testLine : Pattern := .line testParts

/-- The architecture that the groups of a line hold. -/
def architectureOfGroups? (groups : List (List Char)) : Option String :=
  groups.head?.map fun value => String.ofList (Text.trim value)

/-- The architectures that a log names. -/
def architectures (log : String) : List String :=
  (architectureLine.search log.toList).filterMap architectureOfGroups?

/-- What the groups of a test line say. -/
def Entry.ofGroups? : List (List Char) → Option Entry
  | [name, code, exit] => some
    ⟨String.ofList (Text.trim name), String.ofList (Text.trim code),
      String.ofList (Text.trim exit)⟩
  | _ => none

/-- What a log says of tests, in order. -/
def entries (log : String) : List Entry :=
  (testLine.search log.toList).filterMap Entry.ofGroups?

/-- The status that a log writes as `code`. -/
def status? : String → Option Status
  | "PASS" => some .passed
  | "FAIL" => some .failed
  | "CONF" => some .skipped
  | _ => none

/-- The status that a log writes as `code`, or the reason why there is none. -/
def readStatus (code : String) : Except LogError Status :=
  match status? code with
  | some status => .ok status
  | none => .error (.unknownStatus code)

/-- The record of a test. -/
def Entry.record (version architecture : String) (entry : Entry) : Except LogError Record := do
  let status ← readStatus entry.code
  match Text.Numeral.readInt32? entry.exitText.toList with
  | some exitValue => pure ⟨version, architecture, entry.name, status, exitValue⟩
  | none => throw (.invalidExitValue entry.name entry.exitText)

/-- The one architecture that a log names. -/
def readArchitecture (log : String) : Except LogError String :=
  match architectures log with
  | [] => .error .missingArchitecture
  | [architecture] => .ok architecture
  | many => .error (.duplicateArchitecture many.length)

/-- The records of a log, all of one version, in order. -/
def read (version log : String) : Except LogError (List Record) := do
  let architecture ← readArchitecture log
  (entries log).mapM (·.record version architecture)

end Log

end Testbed

import Testbed.Text.Blank
import Testbed.Text.Line
import Testbed.Text.LowerCase

/-!
# The description of an operating system

`os-release` texts are lines `KEY=value`. A value may stand in double or single quotes, a line that
starts with `#` is a comment, and of several lines for one key the last counts.
-/

namespace Testbed.Os

open Text

/-- What an `os-release` text says about the system, as far as it decides what to install. -/
structure Release where
  /-- The name of the distribution, in lower case. -/
  id : String := ""
  /-- The distributions it is derived from, in lower case. -/
  idLike : List String := []
  versionId : String := ""
  /-- The name to show. -/
  prettyName : String := ""
  deriving Repr, DecidableEq

/-- A text without the characters `c` at its two ends. -/
def strip (c : Char) (cs : List Char) : List Char :=
  Text.dropRight (· == c) (cs.dropWhile (· == c))

/-- A value without blanks and quotes around it. -/
def unquote (value : List Char) : List Char := strip '\'' (strip '"' (trim value))

/-- The assignment that a line makes. -/
def assignment? (line : List Char) : Option (String × String) :=
  let content := trim line
  if content.head? = some '#' then none
  else (cutAt? '=' content).map fun (key, value) =>
    (String.ofList (trim key), String.ofList (unquote value))

/-- The assignments of a text, in order. -/
def assignments (content : String) : List (String × String) :=
  (lines content.toList).filterMap assignment?

/-- The last value that the assignments give to a key. -/
def lastValue? (key : String) (fields : List (String × String)) : Option String :=
  fields.reverse.lookup key

namespace Release

/-- Reads an `os-release` text. A system without a name to show is called by its distribution and
version. -/
def read (content : String) : Release :=
  let fields := assignments content
  let value (key : String) := (lastValue? key fields).getD ""
  let id := lower (value "ID")
  { id
    idLike := (words (value "ID_LIKE").toList).map fun w => lower (String.ofList w)
    versionId := value "VERSION_ID"
    prettyName := (lastValue? "PRETTY_NAME" fields).getD
      (trimmed (id ++ " " ++ value "VERSION_ID")) }

/-- Whether the system is, or is derived from, one of the named distributions. -/
def isLike (release : Release) (names : List String) : Bool :=
  names.contains release.id || release.idLike.any names.contains

end Release

end Testbed.Os

import Testbed.Report.Message

/-!
# The summary table

A row for each message, then the number of messages in all and by status. Columns count characters,
and a name that is longer than its column is not cut.
-/

namespace Testbed.Report

/-- Fills a text up with spaces on its left to a number of characters. -/
def padLeft (width : Nat) (s : String) : String :=
  String.ofList (List.replicate (width - s.length) ' ') ++ s

/-- Fills a text up with spaces on its right to a number of characters. -/
def padRight (width : Nat) (s : String) : String :=
  s ++ String.ofList (List.replicate (width - s.length) ' ')

/-- The line that opens the table. -/
def rule : String := String.ofList (List.replicate 40 '_')

/-- The row of a message. -/
def row (m : Message) : String :=
  padLeft 50 m.fullName ++ ": " ++ padRight 8 m.status.name ++ " " ++ m.message

/-- How many messages have a status. -/
def count (messages : List Message) (status : Status) : Nat :=
  messages.countP (·.status = status)

/-- The line that counts the messages of a status. -/
def countLine (messages : List Message) (status : Status) : String :=
  "    " ++ padRight 9 status.name ++ ": " ++ toString (count messages status)

/-- The lines of the table. -/
def table (messages : List Message) : List String :=
  rule :: messages.map row ++
    ["test result summary", "    TOTAL    : " ++ toString messages.length] ++
    Status.all.map (countLine messages)

end Testbed.Report

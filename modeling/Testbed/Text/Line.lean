import Testbed.Text.Pieces

/-!
# Lines

A line ends at a line feed, and a carriage return directly before the line feed belongs to the line
end. A text that ends in a line feed has no further empty line; a last line without a line feed
keeps its carriage return.
-/

namespace Testbed.Text

/-- A line without the one carriage return it may end with. -/
def withoutReturn (line : List Char) : List Char :=
  if line.getLast? = some '\r' then line.dropLast else line

/-- The lines among the pieces between line feeds: every piece but the last was ended by one. -/
def endedLines : List (List Char) → List (List Char)
  | [] => []
  | [last] => if last.isEmpty then [] else [last]
  | p :: ps => withoutReturn p :: endedLines ps

/-- The lines of a text. -/
def lines (cs : List Char) : List (List Char) := endedLines (cs.splitOn '\n')

/-! ## Laws -/

/-- A line feed ends a line. -/
theorem lines_append_lineFeed {line : List Char} (hfeed : '\n' ∉ line) (hreturn : '\r' ∉ line)
    (cs : List Char) : lines (line ++ '\n' :: cs) = line :: lines cs := by
  have hline : withoutReturn line = line := if_neg fun hlast => hreturn (List.mem_of_getLast? hlast)
  rw [lines, List.splitOn_append_cons_self_of_not_mem hfeed, lines]
  cases hpieces : cs.splitOn '\n' with
  | nil => exact absurd hpieces (List.splitOn_ne_nil _ _)
  | cons p ps =>
    show withoutReturn line :: endedLines (p :: ps) = _
    rw [hline]

end Testbed.Text

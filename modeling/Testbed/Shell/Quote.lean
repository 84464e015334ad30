/-!
# Quoting for the shell

`quote` writes any text as one word of a POSIX shell. A text of harmless characters stays bare; any
other, the empty one included, goes between single quotes, where only a single quote and an
exclamation mark leave the quotes to be escaped by a backslash.
-/

namespace Testbed.Shell

/-- Whether a character means nothing to the shell wherever it stands in a word. -/
def isPlain (c : Char) : Bool := c.isAlphanum || "-_=/,.+".toList.contains c

/-- One character of a quoted text. -/
def quotedChar (c : Char) : List Char :=
  if c = '\'' || c = '!' then ['\'', '\\', c, '\''] else [c]

/-- A text as one word. -/
def quoteChars (cs : List Char) : List Char :=
  if !cs.isEmpty && cs.all isPlain then cs else '\'' :: cs.flatMap quotedChar ++ ['\'']

/-- `s` as one word of a shell command. -/
def quote (s : String) : String := String.ofList (quoteChars s.toList)

end Testbed.Shell

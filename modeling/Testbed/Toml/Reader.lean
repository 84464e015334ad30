import Testbed.Text.Blank

/-!
# Reading characters

A `Reader` takes what it reads off the front of a text, or refuses it.
-/

namespace Testbed.Toml

open Text (isGap)

/-- Reads something off the front of a text. -/
abbrev Reader := StateT (List Char) Option

/-- Whether a character may stand in a comment, or by itself inside quotes. -/
def isTextChar (c : Char) : Bool := c == '\t' || (0x20 ≤ c.toNat && c.toNat != 0x7f)

/-- The text after a line end, if there is one. -/
def afterLineEnd? : List Char → Option (List Char)
  | '\n' :: cs => some cs
  | '\r' :: '\n' :: cs => some cs
  | _ => none

/-- A text without a line end at its front. -/
def dropLineEnd (cs : List Char) : List Char := (afterLineEnd? cs).getD cs

namespace Reader

/-- The next character. -/
def next? : Reader (Option Char) := do pure (← get).head?

/-- Takes one character. -/
def take (c : Char) : Reader Unit := fun cs =>
  match cs with
  | d :: rest => if c = d then some ((), rest) else none
  | [] => none

/-- Takes one character if it comes next. -/
def takeIf (c : Char) : Reader Bool := fun cs =>
  match cs with
  | d :: rest => if c = d then some (true, rest) else some (false, cs)
  | [] => some (false, [])

/-- Takes all characters of a kind. -/
def takeWhile (p : Char → Bool) : Reader (List Char) := fun cs =>
  some (cs.takeWhile p, cs.dropWhile p)

/-- Passes over spaces and tabs. -/
def skipGap : Reader Unit := modify (·.dropWhile isGap)

/-- Passes over gaps, line ends and comments, the latter up to their line end. -/
def skipLines : Reader Unit := modify (go false)
where
  /-- The rest of the text, which may start inside a comment. -/
  go : Bool → List Char → List Char
    | _, [] => []
    | _, '\n' :: cs => go false cs
    | _, '\r' :: '\n' :: cs => go false cs
    | true, c :: cs => if isTextChar c then go true cs else c :: cs
    | false, c :: cs =>
      if isGap c then go false cs else if c = '#' then go true cs else c :: cs

/-- Takes the rest of a line, which holds nothing but a comment. -/
def lineEnd : Reader Unit := do
  skipGap
  if ← takeIf '#' then
    let _ ← takeWhile isTextChar
  match ← get with
  | [] => pure ()
  | cs =>
    match afterLineEnd? cs with
    | some rest => set rest
    | none => failure

end Reader

end Testbed.Toml

import Testbed.Toml.Item
import Testbed.Text.Numeral
import Testbed.Text.Pieces

/-!
# Writing documents

A document of sections is written with a header for each, a line for each field and an empty line
between sections. Arrays of two or more strings go over several lines.

A string is written in the first of these styles that can hold it: in double quotes without any
escape; in single quotes; in three double quotes without any escape; in three single quotes. If none
can, it is written with escapes, in three double quotes if it holds a line feed and else in one.
-/

namespace Testbed.Toml

/-- A value that can be written. -/
inductive Plain where
  | string (value : String)
  | number (value : Nat)
  | boolean (value : Bool)
  | strings (values : List String)
  deriving Repr, DecidableEq

/-- A named group of fields. -/
structure Section where
  name : String
  fields : List (String × Plain)
  deriving Repr, DecidableEq

/-- The item of a value. -/
def Plain.item : Plain → Item
  | .string value => .string value
  | .number value => .integer value
  | .boolean value => .boolean value
  | .strings values => .array (values.map Item.string)

/-- The table of a list of sections. -/
def Entries.ofSections (sections : List Section) : Entries :=
  sections.map fun s =>
    (s.name, .table .header (s.fields.map fun (name, value) => (name, value.item)))

namespace Printer

/-! ## Strings -/

/-- Whether a character can only be written by an escape. -/
def isControl (c : Char) : Bool :=
  c != '\t' && c != '\n' && (c.toNat < 0x20 || c.toNat == 0x7f)

/-- Whether `c` stands somewhere `n` times in a row. -/
def hasRun (n : Nat) (c : Char) (cs : List Char) : Bool := Text.occursIn (List.replicate n c) cs

/-- A way to write strings. -/
inductive Style where
  | basic
  | literal
  | multiBasic
  | multiLiteral
  deriving Repr, DecidableEq

/-- The way in which a string is written. -/
def Style.choose (cs : List Char) : Style :=
  let controls := cs.any isControl
  let lineFeed := cs.contains '\n'
  let backslash := cs.contains '\\'
  if !controls && !backslash && !cs.contains '"' && !lineFeed then .basic
  else if !controls && !cs.contains '\'' && !lineFeed then .literal
  else if !controls && !backslash && !hasRun 3 '"' cs then .multiBasic
  else if !controls && !hasRun 3 '\'' cs then .multiLiteral
  else if lineFeed then .multiBasic
  else .basic

/-- Whether a style goes over several lines. -/
def Style.isMulti : Style → Bool
  | .multiBasic | .multiLiteral => true
  | .basic | .literal => false

/-- The quotes around a string. -/
def Style.quotes : Style → List Char
  | .basic => ['"']
  | .literal => ['\'']
  | .multiBasic => ['"', '"', '"']
  | .multiLiteral => ['\'', '\'', '\'']

/-- A code point as four hexadecimal digits. -/
def hexadecimal (n : Nat) : List Char :=
  let digits := (Nat.toDigits 16 n).map Char.toUpper
  List.replicate (4 - digits.length) '0' ++ digits

/-- A character other than a quote, with an escape if it needs one. -/
def escaped (multi : Bool) (c : Char) : List Char :=
  match c with
  | '\x08' => ['\\', 'b']
  | '\t' => ['\\', 't']
  | '\n' => if multi then ['\n'] else ['\\', 'n']
  | '\x0c' => ['\\', 'f']
  | '\r' => ['\\', 'r']
  | '\\' => ['\\', '\\']
  | c => if isControl c then '\\' :: 'u' :: hexadecimal c.toNat else [c]

/-- A text with escapes; `bare` more double quotes in a row need none. -/
def escapedText (multi : Bool) : (bare : Nat) → List Char → List Char
  | _, [] => []
  | 0, '"' :: cs => '\\' :: '"' :: escapedText multi (allowance multi) cs
  | bare + 1, '"' :: cs => '"' :: escapedText multi bare cs
  | _, c :: cs => escaped multi c ++ escapedText multi (allowance multi) cs
where
  /-- How many double quotes in a row need no escape. -/
  allowance (multi : Bool) : Nat := if multi then 2 else 0

/-- A text between the quotes of a style; a text on several lines starts on a line of its own. -/
def quotedIn (style : Style) (cs : List Char) : List Char :=
  let body := match style with
    | .basic => escapedText false 0 cs
    | .multiBasic => escapedText true 2 cs
    | .literal | .multiLiteral => cs
  let start := if style.isMulti && cs.contains '\n' then ['\n'] else []
  style.quotes ++ start ++ body ++ style.quotes

/-- A string as it is written. -/
def string (s : String) : String :=
  String.ofList (quotedIn (Style.choose s.toList) s.toList)

/-! ## Values, sections and documents -/

/-- The bound of the numbers that can be written. -/
def numberBound : Nat := Text.Numeral.bound 63

/-- An array of strings. -/
def strings : List String → String
  | [] => "[]"
  | [value] => "[" ++ string value ++ "]"
  | values => "[\n" ++ String.join (values.map fun v => "    " ++ string v ++ ",\n") ++ "]"

/-- A value as it is written, if it can be. -/
def value? : Plain → Option String
  | .string value => some (string value)
  | .number value => if value < numberBound then some (toString value) else none
  | .boolean value => some (if value then "true" else "false")
  | .strings values => some (strings values)

/-- The line of a field. -/
def field? (name : String) (value : Plain) : Option String := do
  let text ← value? value
  pure (name ++ " = " ++ text ++ "\n")

/-- The lines of a section. -/
def section? (s : Section) : Option String := do
  let lines ← s.fields.mapM fun (name, value) => field? name value
  pure ("[" ++ s.name ++ "]\n" ++ String.join lines)

/-- The text of a document. -/
def document? (sections : List Section) : Option String := do
  let texts ← sections.mapM section?
  pure (String.intercalate "\n" texts)

end Printer

end Testbed.Toml

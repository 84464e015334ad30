import Testbed.Text.Printable

/-!
# Quoted texts

A text in double quotes, for a message: quotes, backslashes and line ends are escaped by a
backslash, and every character that would not show (`isUnprintable`) or would alter its neighbour
(`isCombining`) is given by its code point in hexadecimal.
-/

namespace Testbed.Text

/-- One character inside quotes. -/
def quotedChar (c : Char) : String :=
  match c with
  | '"' => "\\\""
  | '\\' => "\\\\"
  | '\n' => "\\n"
  | '\r' => "\\r"
  | '\t' => "\\t"
  | '\x00' => "\\0"
  | c =>
    if isUnprintable c || isCombining c then
      "\\u\x7b" ++ String.ofList (Nat.toDigits 16 c.toNat) ++ "\x7d"
    else String.singleton c

/-- A text in double quotes. -/
def quoted (s : String) : String := "\"" ++ String.join (s.toList.map quotedChar) ++ "\""

/-- A list of texts, each in double quotes. -/
def quotedList (items : List String) : String :=
  "[" ++ String.intercalate ", " (items.map quoted) ++ "]"

end Testbed.Text

import Testbed.Record

/-!
# Records as JSON

Records are written as a JSON array of objects, indented by two spaces, with the fields in a fixed
order. In strings, quotes, backslashes and control characters are escaped, and nothing else.
-/

namespace Testbed.Json

/-- A control character as a code point with four hexadecimal digits. -/
def codePoint (c : Char) : String :=
  let digits := Nat.toDigits 16 c.toNat
  "\\u" ++ String.ofList (List.replicate (4 - digits.length) '0' ++ digits)

/-- One character inside a string. -/
def escaped (c : Char) : String :=
  match c with
  | '"' => "\\\""
  | '\\' => "\\\\"
  | '\x08' => "\\b"
  | '\t' => "\\t"
  | '\n' => "\\n"
  | '\x0c' => "\\f"
  | '\r' => "\\r"
  | c => if c.toNat < 0x20 then codePoint c else String.singleton c

/-- A string with its quotes. -/
def string (s : String) : String := "\"" ++ String.join (s.toList.map escaped) ++ "\""

/-- The fields of a record, as names and written values. -/
def fields (record : Record) : List (String × String) :=
  [("version", string record.version), ("architecture", string record.architecture),
    ("name", string record.name), ("status", string record.status.name),
    ("exit_value", toString record.exitValue.toInt)]

/-- An object inside the array. -/
def object (record : Record) : String :=
  let lines := (fields record).map fun (name, value) => "    " ++ string name ++ ": " ++ value
  "  \x7b\n" ++ String.intercalate ",\n" lines ++ "\n  \x7d"

/-- The text of a list of records. -/
def records (all : List Record) : String :=
  if all.isEmpty then "[]" else "[\n" ++ String.intercalate ",\n" (all.map object) ++ "\n]"

end Testbed.Json

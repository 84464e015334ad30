import Testbed.Toml.Number
import Testbed.Toml.Reader

/-!
# Quoted strings

There are four kinds: in double quotes with escapes or in single quotes without, each on one line or
between triple quotes on several. Between triple quotes a line end right after the opening quotes is
dropped, every line end counts as a line feed, and up to two quotes may stand before the closing
ones; with escapes, a backslash at the end of a line joins it to the next text.

Each function reads what follows the opening quotes, and takes the closing ones.
-/

namespace Testbed.Toml.Quotation

open Text (isGap)

/-- The character whose code point these hexadecimal digits give. -/
def codePoint? (digits : List Char) : Option Char := do
  let n ← Number.value? 16 digits
  if n.isValidChar then some (Char.ofNat n) else none

/-- The character that stands for a letter after a backslash. -/
def escape? : Char → Option Char
  | 'b' => some '\x08'
  | 't' => some '\t'
  | 'n' => some '\n'
  | 'f' => some '\x0c'
  | 'r' => some '\r'
  | '"' => some '"'
  | '\\' => some '\\'
  | _ => none

/-- A character in front of what is read next. -/
def prepend (c : Char) : Option (List Char × List Char) → Option (List Char × List Char)
  | some (text, rest) => some (c :: text, rest)
  | none => none

/-- On one line, with escapes. -/
def basic : List Char → Option (List Char × List Char)
  | '"' :: cs => some ([], cs)
  | '\\' :: 'u' :: a :: b :: c :: d :: cs =>
    (codePoint? [a, b, c, d]).bind fun x => prepend x (basic cs)
  | '\\' :: 'U' :: a :: b :: c :: d :: e :: f :: g :: h :: cs =>
    (codePoint? [a, b, c, d, e, f, g, h]).bind fun x => prepend x (basic cs)
  | '\\' :: c :: cs => (escape? c).bind fun x => prepend x (basic cs)
  | c :: cs => if isTextChar c && c != '\\' then prepend c (basic cs) else none
  | [] => none

/-- On one line, without escapes. -/
def literal : List Char → Option (List Char × List Char)
  | '\'' :: cs => some ([], cs)
  | c :: cs => if isTextChar c then prepend c (literal cs) else none
  | [] => none

/-- What is passed over inside triple quotes. -/
inductive Skipping where
  | nothing
  /-- Gaps up to a line end. -/
  | toLineEnd
  /-- Gaps and line ends. -/
  | lines
  deriving Repr, DecidableEq

/-- On several lines, with escapes. -/
def multiBasic : Skipping → List Char → Option (List Char × List Char)
  | .toLineEnd, '\n' :: cs => multiBasic .lines cs
  | .toLineEnd, '\r' :: '\n' :: cs => multiBasic .lines cs
  | .toLineEnd, c :: cs => if isGap c then multiBasic .toLineEnd cs else none
  | .lines, '\n' :: cs => multiBasic .lines cs
  | .lines, '\r' :: '\n' :: cs => multiBasic .lines cs
  | .lines, ' ' :: cs => multiBasic .lines cs
  | .lines, '\t' :: cs => multiBasic .lines cs
  | _, '"' :: '"' :: '"' :: '"' :: '"' :: cs => some (['"', '"'], cs)
  | _, '"' :: '"' :: '"' :: '"' :: cs => some (['"'], cs)
  | _, '"' :: '"' :: '"' :: cs => some ([], cs)
  | _, '\\' :: 'u' :: a :: b :: c :: d :: cs =>
    (codePoint? [a, b, c, d]).bind fun x => prepend x (multiBasic .nothing cs)
  | _, '\\' :: 'U' :: a :: b :: c :: d :: e :: f :: g :: h :: cs =>
    (codePoint? [a, b, c, d, e, f, g, h]).bind fun x => prepend x (multiBasic .nothing cs)
  | _, '\\' :: '\n' :: cs => multiBasic .lines cs
  | _, '\\' :: '\r' :: '\n' :: cs => multiBasic .lines cs
  | _, '\\' :: c :: cs =>
    if isGap c then multiBasic .toLineEnd cs
    else (escape? c).bind fun x => prepend x (multiBasic .nothing cs)
  | _, '\n' :: cs => prepend '\n' (multiBasic .nothing cs)
  | _, '\r' :: '\n' :: cs => prepend '\n' (multiBasic .nothing cs)
  | _, c :: cs => if isTextChar c && c != '\\' then prepend c (multiBasic .nothing cs) else none
  | _, [] => none

/-- On several lines, without escapes. -/
def multiLiteral : List Char → Option (List Char × List Char)
  | '\'' :: '\'' :: '\'' :: '\'' :: '\'' :: cs => some (['\'', '\''], cs)
  | '\'' :: '\'' :: '\'' :: '\'' :: cs => some (['\''], cs)
  | '\'' :: '\'' :: '\'' :: cs => some ([], cs)
  | '\n' :: cs => prepend '\n' (multiLiteral cs)
  | '\r' :: '\n' :: cs => prepend '\n' (multiLiteral cs)
  | c :: cs => if isTextChar c then prepend c (multiLiteral cs) else none
  | [] => none

/-- A quoted string on one line. -/
def line : Reader String := fun cs => do
  let (text, rest) ← match cs with
    | '"' :: cs => basic cs
    | '\'' :: cs => literal cs
    | _ => none
  pure (String.ofList text, rest)

/-- A quoted string of any kind. -/
def any : Reader String := fun cs =>
  match cs with
  | '"' :: '"' :: '"' :: cs =>
    (multiBasic .nothing (dropLineEnd cs)).map fun (text, rest) => (String.ofList text, rest)
  | '\'' :: '\'' :: '\'' :: cs =>
    (multiLiteral (dropLineEnd cs)).map fun (text, rest) => (String.ofList text, rest)
  | cs => line cs

end Testbed.Toml.Quotation

import Testbed.Toml.Value

/-!
# Documents

A document is a list of statements: headers, and pairs of a key and a value, which belong to the
table of the last header. `Entries.read?` is the table that a text describes.
-/

namespace Testbed.Toml

open Reader

/-- A statement of a document. -/
inductive Statement where
  | openTable (key : Key)
  | openElement (key : Key)
  | put (key : Key) (item : Item)

/-- The statement that begins in the text, up to the end of its line; `n` bounds the steps. -/
def statement (n : Nat) : Reader Statement := do
  if ← takeIf '[' then
    if ← takeIf '[' then
      let table ← key
      take ']'
      take ']'
      lineEnd
      pure (.openElement table)
    else
      let table ← key
      take ']'
      lineEnd
      pure (.openTable table)
  else
    let target ← key
    take '='
    skipGap
    let item ← value (depthLimit - 1) n
    lineEnd
    pure (.put target item)

/-- The statements of a text; `n` bounds the number of lines and the steps for each. -/
def statements (n : Nat) : Nat → Reader (List Statement)
  | 0 => failure
  | lines + 1 => do
    skipGap
    match ← get with
    | [] => pure []
    | c :: _ =>
      if c = '#' || c = '\n' || c = '\r' then
        lineEnd
        statements n lines
      else
        let first ← statement n
        return first :: (← statements n lines)

/-- The statements of a text, with or without a byte order mark in front. -/
def readStatements? (text : String) : Option (List Statement) :=
  let cs := match text.toList with
    | '\ufeff' :: cs => cs
    | cs => cs
  ((statements (cs.length + 1) (cs.length + 1)).run cs).map (·.1)

/-- A document in the making: what is defined so far, and the path of the last header. -/
structure Draft where
  entries : Entries := []
  header : List String := []

/-- The effect of a statement. -/
def Draft.add (draft : Draft) : Statement → Option Draft
  | .openTable key => do
    pure ⟨← draft.entries.openTable key, key.path ++ [key.name]⟩
  | .openElement key => do
    pure ⟨← draft.entries.openElement key, key.path ++ [key.name]⟩
  | .put key item => do
    pure { draft with entries := ← draft.entries.putUnder draft.header key item }

/-- The table that a text describes. -/
def Entries.read? (text : String) : Option Entries := do
  let draft ← (← readStatements? text).foldlM Draft.add {}
  pure draft.entries

end Testbed.Toml

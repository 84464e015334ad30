/-!
# Items of a TOML document

A document is a table of named items. Tables may be written in several ways, and which of them may
be extended later depends on the way: a table that was only implied by a longer header may still get
a header of its own, a table made by dotted keys may be extended by dotted keys, and an inline table
not at all. So each table keeps its `Origin`.

* `descend`: changes the table that a path of keys leads to, making missing tables on the way;
* `put`, `openTable`, `openElement`: what the three kinds of statements do to a document.

All refuse (`none`) what would define something twice.
-/

namespace Testbed.Toml

/-- How a table came to be. -/
inductive Origin where
  /-- It has a header. -/
  | header
  /-- It stands on the way to a table that has a header. -/
  | implied
  /-- It stands on the way of a dotted key. -/
  | dotted
  /-- It is written as a value. -/
  | inline
  deriving Repr, DecidableEq

/-- What a name stands for. The values of floating-point numbers, dates and times are of no concern
here and are not kept. -/
inductive Item where
  | string (value : String)
  | integer (value : Int)
  | float
  | boolean (value : Bool)
  | datetime
  | array (items : List Item)
  | table (origin : Origin) (entries : List (String × Item))
  /-- The tables that have one header each, written with two brackets. -/
  | tables (elements : List (List (String × Item)))

/-- The named items of a table. -/
abbrev Entries := List (String × Item)

/-- A key: the tables it goes through and the name in the last of them. -/
structure Key where
  path : List String
  name : String
  deriving Repr, DecidableEq

namespace Entries

/-- The entries with another item for a name that is there. -/
def set (entries : Entries) (name : String) (item : Item) : Entries :=
  entries.map fun (other, old) => if other = name then (other, item) else (other, old)

/-- The entries with an item for a name that is not there yet. -/
def add? (entries : Entries) (name : String) (item : Item) : Option Entries :=
  if (entries.lookup name).isSome then none else some (entries ++ [(name, item)])

/-- Changes the table that a path leads to from a table of the given origin. A dotted path makes the
tables it misses, and enters tables that have no header; any path goes on through the last of the
tables that share a header. -/
def descend (dotted : Bool) (change : Origin → Entries → Option Entries) :
    List String → Origin → Entries → Option Entries
  | [], origin, entries => change origin entries
  | name :: path, _, entries =>
    match entries.lookup name with
    | none => do
      let origin := if dotted then Origin.dotted else Origin.implied
      let inner ← descend dotted change path origin []
      pure (entries ++ [(name, .table origin inner)])
    | some (.table origin inner) => do
      if origin = .inline || (dotted && origin = .header) then none
      let inner ← descend dotted change path origin inner
      pure (entries.set name (.table origin inner))
    | some (.tables elements) => do
      let last ← elements.getLast?
      let last ← descend dotted change path .header last
      pure (entries.set name (.tables (elements.dropLast ++ [last])))
    | some _ => none

/-- Gives an item to a key within a table. The last table on the way of a dotted key must be one
that dotted keys made. -/
def put (key : Key) (item : Item) (origin : Origin) (entries : Entries) : Option Entries :=
  descend true
    (fun reached entries =>
      if !key.path.isEmpty && reached != .dotted then none else entries.add? key.name item)
    key.path origin entries

/-- Gives a table its header. -/
def openTable (key : Key) (document : Entries) : Option Entries :=
  descend false
    (fun _ entries =>
      match entries.lookup key.name with
      | none => some (entries ++ [(key.name, .table .header [])])
      | some (.table .implied inner) => some (entries.set key.name (.table .header inner))
      | some _ => none)
    key.path .header document

/-- Adds one more table under a header with two brackets. -/
def openElement (key : Key) (document : Entries) : Option Entries :=
  descend false
    (fun _ entries =>
      match entries.lookup key.name with
      | none => some (entries ++ [(key.name, .tables [[]])])
      | some (.tables elements) => some (entries.set key.name (.tables (elements ++ [[]])))
      | some _ => none)
    key.path .header document

/-- Gives an item to a key under the header at the end of a path. -/
def putUnder (header : List String) (key : Key) (item : Item) (document : Entries) :
    Option Entries :=
  descend false (put key item) header .header document

/-- The table of the pairs between braces. -/
def ofPairs (pairs : List (Key × Item)) : Option Entries :=
  pairs.foldlM (fun entries (key, item) => put key item .header entries) []

end Entries

end Testbed.Toml

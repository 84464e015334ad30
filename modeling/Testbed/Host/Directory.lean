import Testbed.Host.Action
import Testbed.Text.Pieces

/-!
# A tree of files

Directories and files by their names from the root, with a working directory. `Directory.locate`
walks a path name by name: it needs a directory for every step, `.` stays, `..` goes up, and
repeated slashes count as one. What a path ends at need not exist.
-/

namespace Testbed.Host

/-- The names on the way from the root. -/
abbrev Location := List String

/-- What stands at a location. -/
inductive Entry where
  | directory
  /-- A file, with its text if its bytes are UTF-8. -/
  | file (text : Option String)
  deriving Repr, DecidableEq

/-- A tree of files and the directory that relative paths start in. -/
structure Directory where
  entries : List (Location × Entry) := []
  working : Location := []
  deriving Repr, DecidableEq

namespace Directory

/-- The longest name of a file, in bytes. -/
def nameLimit : Nat := 255

/-- The number of bytes from which on a path is too long. -/
def pathLimit : Nat := 4096

/-- What stands at a location; the root is a directory. -/
def entry? (d : Directory) (location : Location) : Option Entry :=
  if location.isEmpty then some .directory else d.entries.lookup location

/-- The tree with an entry at a location. -/
def insert (d : Directory) (location : Location) (entry : Entry) : Directory :=
  { d with entries := (location, entry) :: d.entries.filter (·.1 != location) }

/-- The names on a path; an empty one before a slash at either end. -/
def names (path : String) : List String :=
  (path.toList.splitOn '/').map String.ofList

/-- One step on the way along a path. -/
def descend (d : Directory) (location : Location) (name : String) : Except FileFault Location :=
  match d.entry? location with
  | none => .error .notFound
  | some (.file _) => .error .notDirectory
  | some .directory =>
    if name.isEmpty || name == "." then .ok location
    else if name == ".." then .ok location.dropLast
    else if nameLimit < name.utf8ByteSize then .error .nameTooLong
    else .ok (location ++ [name])

/-- Refuses a path that is no path whatever the tree holds. -/
def checkPath (path : String) : Except FileFault Unit :=
  if path.toList.contains '\x00' then .error .nulInPath
  else if path.isEmpty then .error .notFound
  else if pathLimit ≤ path.utf8ByteSize then .error .nameTooLong
  else .ok ()

/-- Where the way along a path starts. -/
def start (d : Directory) (path : String) : Location :=
  if Text.startsWith path "/" then [] else d.working

/-- The location at the end of the way along some names. -/
def walk (d : Directory) (location : Location) (names : List String) : Except FileFault Location :=
  names.foldlM d.descend location

/-- The location at the end of a path. -/
def locate (d : Directory) (path : String) : Except FileFault Location := do
  checkPath path
  d.walk (d.start path) (names path)

/-- What stands at a path. -/
def lookup (d : Directory) (path : String) : Except FileFault Entry := do
  match d.entry? (← d.locate path) with
  | some entry => pure entry
  | none => throw .notFound

/-- The text of the file at a path. -/
def read (d : Directory) (path : String) : Except FileFault String := do
  match ← d.lookup path with
  | .directory => throw .isDirectory
  | .file none => throw .notUtf8
  | .file (some text) => pure text

/-- A path without the slashes it ends with. -/
def stem (path : String) : String :=
  String.ofList (Text.dropRight (· == '/') path.toList)

/-- The location that a text can be written to. A path that ends in a slash stands for a directory:
its last name is not looked up, but what would hold it has to be a directory. -/
def target (d : Directory) (path : String) : Except FileFault Location := do
  checkPath path
  if path.toList.getLast? = some '/' then
    let _ ← d.walk (d.start path) ((names (stem path)).dropLast ++ ["."])
    throw .isDirectory
  let location ← d.locate path
  match d.entry? location with
  | some .directory => throw .isDirectory
  | _ => pure location

/-- The tree after a text was written to the file at a path. -/
def write (d : Directory) (path text : String) : Except FileFault Directory := do
  pure (d.insert (← d.target path) (.file (some text)))

end Directory

end Testbed.Host

/-!
# Patterns

A `Pattern` says what a stretch of text looks like. `Pattern.ways` lists the ways in which it fits
at a place of a text, the preferred way first, and `Pattern.search` goes through a text from left
to right and takes the preferred way at the first place where there is one, then goes on behind it.

Lines are what stands between line feeds: no other character begins or ends one.
-/

namespace Testbed.Text

/-- What a stretch of text looks like. -/
inductive Pattern where
  /-- The start of a line; nothing is taken. -/
  | lineStart
  /-- The end of a line; nothing is taken. -/
  | lineEnd
  /-- Just these characters. -/
  | literal (cs : List Char)
  /-- One character of a kind. -/
  | one (kind : Char → Bool)
  /-- At most one character of a kind, and one rather than none. -/
  | optional (kind : Char → Bool)
  /-- Any number of characters of a kind, and rather more than fewer. -/
  | many (kind : Char → Bool)
  /-- Any number of characters of a kind, and rather fewer than more. -/
  | few (kind : Char → Bool)
  /-- A pattern whose text is kept. -/
  | group (inner : Pattern)
  /-- One pattern, and another behind it. -/
  | seq (first second : Pattern)

/-- One way in which a pattern fits. -/
structure Way where
  /-- The characters it covers. -/
  taken : List Char
  /-- What its groups hold, in order. -/
  groups : List (List Char)
  /-- The characters behind it. -/
  rest : List Char
  deriving Repr, DecidableEq

namespace Pattern

/-- The runs of characters of a kind that a text begins with, from the shortest on. -/
def runs (kind : Char → Bool) : List Char → List Way
  | [] => [⟨[], [], []⟩]
  | c :: cs =>
    ⟨[], [], c :: cs⟩ ::
      if kind c then (runs kind cs).map fun w => { w with taken := c :: w.taken } else []

/-- The ways in which a pattern fits at the head of `cs`, the preferred way first; `before` is the
character that stands before it, if any does. -/
def ways : Pattern → Option Char → List Char → List Way
  | lineStart, before, cs => if before.all (· == '\n') then [⟨[], [], cs⟩] else []
  | lineEnd, _, cs => if cs.head?.all (· == '\n') then [⟨[], [], cs⟩] else []
  | literal t, _, cs => if t.isPrefixOf cs then [⟨t, [], cs.drop t.length⟩] else []
  | one _, _, [] => []
  | one kind, _, c :: cs => if kind c then [⟨[c], [], cs⟩] else []
  | optional _, _, [] => [⟨[], [], []⟩]
  | optional kind, _, c :: cs => (if kind c then [⟨[c], [], cs⟩] else []) ++ [⟨[], [], c :: cs⟩]
  | many kind, _, cs => (runs kind cs).reverse
  | few kind, _, cs => runs kind cs
  | group p, before, cs => (p.ways before cs).map fun w => { w with groups := w.taken :: w.groups }
  | seq p q, before, cs =>
    (p.ways before cs).flatMap fun w => (q.ways (w.taken.getLast?.or before) w.rest).map fun v =>
      ⟨w.taken ++ v.taken, w.groups ++ v.groups, v.rest⟩

/-- The preferred way at a place, if the pattern fits there. -/
def first? (p : Pattern) (before : Option Char) (cs : List Char) : Option Way :=
  (p.ways before cs).head?

/-- What the groups of the matches in `cs` hold, with the next `skip` characters passed over. A
match of no characters is passed by one. -/
def searchFrom (p : Pattern) : Option Char → Nat → List Char → List (List (List Char))
  | before, _, [] => ((p.first? before []).map (·.groups)).toList
  | _, skip + 1, c :: cs => searchFrom p (some c) skip cs
  | before, 0, c :: cs =>
    match p.first? before (c :: cs) with
    | some w => w.groups :: searchFrom p (some c) (w.taken.length - 1) cs
    | none => searchFrom p (some c) 0 cs

/-- What the groups of the matches in a text hold, from left to right. -/
def search (p : Pattern) (cs : List Char) : List (List (List Char)) := p.searchFrom none 0 cs

/-- One or more characters of a kind, and rather more than fewer. -/
def oneOrMore (kind : Char → Bool) : Pattern := seq (one kind) (many kind)

/-- The pattern of the given parts up to the end of a line. -/
def toLineEnd (parts : List Pattern) : Pattern := parts.foldr seq lineEnd

/-- The pattern of a whole line that is made of the given parts. -/
def line (parts : List Pattern) : Pattern := seq lineStart (toLineEnd parts)

end Pattern

end Testbed.Text

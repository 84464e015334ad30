import Mathlib.Algebra.Group.Nat.Defs
import Mathlib.Data.Nat.Find
import Testbed.Node.Resources
import Testbed.Proofs.Node.Memory
import Testbed.Proofs.Text.Blank
import Testbed.Proofs.Text.Numeral
import Testbed.Proofs.Text.Stripped

/-!
# What tables of resources tell

A node shows its swap space and its file systems as tables, meant for the eye. Here is what such a
table tells, said of its lines and words without the reader, and that the reader takes it so.

* `SwapRow` are the figures of swap space in a table of `free`, and `TellsSwap` is a table that tells a
  total.
* `rows` are the lines of a table of `df` that count, `Available` is the free space a row tells, and
  `Reserved` a row that is no place for files, by the whole names of its path.
* `Fits` is a row with enough space, `FirstAt` the first row of a kind, and `Chosen` what is chosen
  of all rows.
* `Alike` are lines that differ in `Negligible` rows only.

Results:

* `readProcessors_eq_ok_iff`, `readSwapTotal_eq_ok_iff`: what is read as a number of processors, and as
  a total of swap space.
* `TellsSwap.readSwapTotal_eq_ok_iff`: a total is read as it is told, up to 64 bits.
* `readMounts_eq`: the mounts of a table are those of its rows, or the error of the first bad row.
* `names_prefix_iff`: names of a path against the texts that the program compares.
* `chosen_chooseMountPoint` and `Chosen.unique`: the choice is the one that `Chosen` allows.
* `Fits.of_le` and `Alike.chooseMountPoint_eq`: the choice for less, and without negligible rows.

Headline: **`findSpace_chooses`**: on every table and for every space up to what fits in 64 bits.
-/

namespace Testbed.Node

open Text

/-! ## Processors -/

/-- **A number of processors is the numeral that is shown**, blanks at its ends aside, if it has no more
than 64 bits. -/
theorem readProcessors_eq_ok_iff {output : String} {n : Nat} : readProcessors output = .ok n ↔
    ∃ numeral, Stripped isBlank output.toList numeral ∧ Numeral.Counts numeral n ∧ n < 2 ^ 64 := by
  have hread : readProcessors output = .ok n ↔
      Numeral.read? wordLimit (trim output.toList) = some n := by
    unfold readProcessors Numeral.read?
    cases Numeral.read wordLimit (trim output.toList) <;> simp [Except.toOption]
  rw [hread, Numeral.read?_eq_some_iff (by decide), exists_stripped_iff]
  rfl

/-! ## Swap space -/

/-- **The figures of swap space** in a table of `free`: what stands behind the label for it, in the first
row with that label. -/
def SwapRow (table : String) (figures : List Char) : Prop :=
  ∃ above left below, lines table.toList = above ++ (left ++ ("Swap:".toList ++ figures)) :: below ∧
    (∀ line ∈ above, ¬"Swap:".toList <+: trimLeft line) ∧ ∀ c ∈ left, isBlank c = true

/-- **A table of `free`** that tells a total of swap space: in its first row with the label for it,
the total stands next, and nothing or a blank behind it. -/
def TellsSwap (table : String) (total : Nat) : Prop :=
  ∃ above row below, lines table.toList = above ++ row :: below ∧
    (∀ line ∈ above, ¬"Swap:".toList <+: trimLeft line) ∧
    ∃ left gap rest, row = left ++ ("Swap:".toList ++ (gap ++ (total.repr.toList ++ rest))) ∧
      (∀ c ∈ left ++ gap, isBlank c = true) ∧ ∀ c ∈ rest.head?, isBlank c = true

theorem swapRow?_eq_some_iff {line figures : List Char} : swapRow? line = some figures ↔
    ∃ left, line = left ++ ("Swap:".toList ++ figures) ∧ ∀ c ∈ left, isBlank c = true := by
  unfold swapRow? trimLeft
  constructor
  · intro h
    obtain ⟨hlabel, hfigures⟩ := Option.ite_none_right_eq_some.mp h
    obtain ⟨behind, hbehind⟩ := List.isPrefixOf_iff_prefix.mp hlabel
    rw [← hbehind, List.drop_left, Option.some.injEq] at hfigures
    refine ⟨line.takeWhile isBlank, ?_, fun c hc => List.all_eq_true.mp List.all_takeWhile c hc⟩
    rw [← hfigures, hbehind, List.takeWhile_append_dropWhile]
  · rintro ⟨left, rfl, hleft⟩
    rw [List.dropWhile_append_of_pos hleft]
    rfl

theorem swapRow?_eq_none_iff {line : List Char} :
    swapRow? line = none ↔ ¬"Swap:".toList <+: trimLeft line := by
  unfold swapRow?
  rw [← List.isPrefixOf_iff_prefix]
  simp

theorem findSome?_swapRow? {table : String} {figures : List Char} :
    (lines table.toList).findSome? swapRow? = some figures ↔ SwapRow table figures := by
  unfold SwapRow
  simp only [List.findSome?_eq_some_iff, swapRow?_eq_some_iff, swapRow?_eq_none_iff]
  constructor
  · rintro ⟨above, row, below, hlines, ⟨left, rfl, hleft⟩, habove⟩
    exact ⟨above, left, below, hlines, habove, hleft⟩
  · rintro ⟨above, left, below, hlines, habove, hleft⟩
    exact ⟨above, _, below, hlines, ⟨left, rfl, hleft⟩, habove⟩

/-- **A total of swap space is the first of its figures**, if that has no more than 64 bits. -/
theorem readSwapTotal_eq_ok_iff {table : String} {n : Nat} : readSwapTotal table = .ok n ↔
    ∃ figures word, SwapRow table figures ∧ (words figures).head? = some word ∧
      Numeral.Counts word n ∧ n < 2 ^ 64 := by
  simp only [← findSome?_swapRow?]
  unfold readSwapTotal
  cases (lines table.toList).findSome? swapRow? with
  | none =>
    refine iff_of_false nofun ?_
    rintro ⟨figures, word, ⟨⟩, -⟩
  | some figures =>
    have hread : (∃ word, (words figures).head? = some word ∧ Numeral.Counts word n ∧ n < 2 ^ 64) ↔
        Numeral.read? wordLimit ((words figures).headD []) = some n := by
      rw [Numeral.read?_eq_some_iff (by decide)]
      cases words figures with
      | nil =>
        refine iff_of_false (fun ⟨_, h, _⟩ => nomatch h) ?_
        rintro ⟨⟨hempty, -⟩, -⟩
        exact hempty rfl
      | cons word more => simp [wordLimit, Numeral.bound]
    simp only [Option.some.injEq, exists_eq_left', hread, exists_and_left]
    cases Numeral.read? wordLimit ((words figures).headD []) <;> simp

/-- A total is read as it is told, if it has no more than 64 bits. -/
theorem TellsSwap.readSwapTotal_eq_ok_iff {table : String} {total n : Nat} (h : TellsSwap table total) :
    readSwapTotal table = .ok n ↔ n = total ∧ total < wordLimit := by
  obtain ⟨above, row, below, hlines, habove, left, gap, rest, rfl, hblank, hrest⟩ := h
  obtain ⟨hleft, hgap⟩ := List.forall_mem_append.mp hblank
  obtain ⟨⟨hne, hdigits⟩, -⟩ := Numeral.isDigits_repr total
  have hword : ∀ c ∈ total.repr.toList, isBlank c = false := fun c hc => isBlank_of_isDigit (hdigits c hc)
  have hwords : (words (gap ++ (total.repr.toList ++ rest))).head? = some total.repr.toList := by
    rw [words_blanks_append hgap]
    cases rest with
    | nil => rw [List.append_nil, words_of_word hne hword, List.head?_cons]
    | cons c rest =>
      rw [words_append_cons (hrest c rfl), words_of_word hne hword]
      rfl
  have hrow : SwapRow table (gap ++ (total.repr.toList ++ rest)) :=
    ⟨above, left, below, hlines, habove, hleft⟩
  rw [Node.readSwapTotal_eq_ok_iff]
  constructor
  · rintro ⟨figures, word, hfigures, hfirst, hcounts, hlt⟩
    obtain rfl := Option.some.inj ((findSome?_swapRow?.mpr hfigures).symm.trans (findSome?_swapRow?.mpr hrow))
    obtain rfl := Option.some.inj (hfirst.symm.trans hwords)
    obtain rfl := hcounts.unique (Numeral.counts_repr total)
    exact ⟨rfl, hlt⟩
  · rintro ⟨rfl, hlt⟩
    exact ⟨_, _, hrow, hwords, Numeral.counts_repr n, hlt⟩

/-! ## Free space -/

/-- The lines below the heading of a table. -/
def bodyLines (table : String) : List (List Char) := (lines table.toList).drop 1

/-- Whether a line is a row: it has six words or more. -/
def isRow (line : List Char) : Bool := 6 ≤ (words line).length

/-- The rows of a table. -/
def rows (table : String) : List (List Char) := (bodyLines table).filter isRow

/-- The mount point of a row: all that follows the fifth word, with single spaces in between. -/
def pointOf (row : List Char) : String :=
  String.intercalate " " (((words row).drop 5).map String.ofList)

/-- **The free space of a row** in KiB: its fourth word, a number of 64 bits. -/
def Available (row : List Char) (kb : Nat) : Prop :=
  ∃ word, (words row)[3]? = some word ∧ Numeral.Counts word kb ∧ kb < 2 ^ 64

/-- The names in a path, from slash to slash. -/
def names (path : String) : List (List Char) := path.toList.splitOn '/'

/-- **A row that is no place for files**: its file system is on no disk, or its mount point is a
directory of the system or lies below one. -/
def Reserved (row : List Char) : Prop :=
  (∃ name ∈ ["tmpfs", "devtmpfs", "udev", "overlay", "none", "shm"],
      (words row).head? = some name.toList) ∨
    ∃ directory ∈ ["/boot", "/dev", "/proc", "/run", "/sys", "/snap"],
      names directory <+: names (pointOf row)

/-- **A row with enough space** for files, in GiB. -/
def Fits (gigabytes : Nat) (row : List Char) : Prop :=
  ∃ kb, Available row kb ∧ gigabytes * 2 ^ 20 ≤ kb ∧ ¬Reserved row

/-- The first row of a kind, and the place where it stands. -/
structure FirstAt (P : List Char → Prop) (rows : List (List Char)) (i : Nat) (row : List Char) :
    Prop where
  here : rows[i]? = some row
  holds : P row
  first : ∀ j < i, ∀ other, rows[j]? = some other → ¬P other

/-- **What is chosen** of the rows of a table. -/
inductive Chosen (gigabytes : Nat) (rows : List (List Char)) : Except NodeError String → Prop
  /-- A row that does not tell its free space is an end to it, wherever it stands. -/
  | unreadable {i : Nat} {row : List Char} (h : FirstAt (fun row => ∀ kb, ¬Available row kb) rows i row) :
      Chosen gigabytes rows (.error (.unexpectedOutput "df -P -k"
        ("invalid available size in line '" ++ String.ofList row ++ "'")))
  /-- The first row with enough space. -/
  | found {i : Nat} {row : List Char} (readable : ∀ row ∈ rows, ∃ kb, Available row kb)
      (h : FirstAt (Fits gigabytes) rows i row) : Chosen gigabytes rows (.ok (pointOf row))
  /-- No row has enough. -/
  | nowhere (readable : ∀ row ∈ rows, ∃ kb, Available row kb) (h : ∀ row ∈ rows, ¬Fits gigabytes row) :
      Chosen gigabytes rows (.error (.unexpectedOutput "df -P -k"
        ("no partition with " ++ toString gigabytes ++ "GB free space")))

/-- A row that tells its free space and is no place for files. -/
structure Negligible (line : List Char) : Prop where
  row : isRow line = true
  readable : ∃ kb, Available line kb
  reserved : Reserved line

/-- Lines that differ in negligible rows only, of which each side may have some. -/
inductive Alike : List (List Char) → List (List Char) → Prop
  | nil : Alike [] []
  | both {ls ms : List (List Char)} (line : List Char) (h : Alike ls ms) :
      Alike (line :: ls) (line :: ms)
  | left {ls ms : List (List Char)} {line : List Char} (hline : Negligible line) (h : Alike ls ms) :
      Alike (line :: ls) ms
  | right {ls ms : List (List Char)} {line : List Char} (hline : Negligible line) (h : Alike ls ms) :
      Alike ls (line :: ms)

variable {gigabytes i j kb : Nat} {line row other : List Char} {P Q : List Char → Prop}
  {ls ms : List (List Char)} {answer : Except NodeError String}

/-! ### First rows -/

theorem FirstAt.unique (h : FirstAt P ls i row) (h' : FirstAt P ls j other) : i = j ∧ row = other := by
  have hij : i = j := by
    rcases Nat.lt_trichotomy i j with hlt | heq | hlt
    · exact absurd h.holds (h'.first i hlt row h.here)
    · exact heq
    · exact absurd h'.holds (h.first j hlt other h'.here)
  subst hij
  exact ⟨rfl, Option.some.inj (h.here.symm.trans h'.here)⟩

theorem FirstAt.mem (h : FirstAt P ls i row) : row ∈ ls := List.mem_of_getElem? h.here

/-- What is found in a list is the first of its kind. -/
theorem find?_eq_some_iff_exists_firstAt {p : List Char → Bool} (hp : ∀ row, p row = true ↔ P row) :
    ls.find? p = some row ↔ ∃ i, FirstAt P ls i row := by
  rw [List.find?_eq_some_iff_getElem]
  constructor
  · rintro ⟨hrow, i, hi, rfl, hfirst⟩
    refine ⟨i, List.getElem?_eq_getElem hi, (hp _).mp hrow, fun j hj other hother => ?_⟩
    obtain ⟨hlt, rfl⟩ := List.getElem?_eq_some_iff.mp hother
    have hnot := hfirst j hj
    rw [← hp]
    simpa using hnot
  · rintro ⟨i, hhere, hrow, hfirst⟩
    obtain ⟨hi, rfl⟩ := List.getElem?_eq_some_iff.mp hhere
    refine ⟨(hp _).mpr hrow, i, hi, rfl, fun j hj => ?_⟩
    have hnot := hfirst j hj ls[j] (List.getElem?_eq_getElem (hj.trans hi))
    rw [← hp] at hnot
    simpa using hnot

/-- Where a row is of a kind, the first one of that kind stands there or above. -/
theorem exists_firstAt (hrow : ls[i]? = some row) (h : P row) :
    ∃ j other, j ≤ i ∧ FirstAt P ls j other := by
  classical
  have hsome : ∃ j other, ls[j]? = some other ∧ P other := ⟨i, row, hrow, h⟩
  obtain ⟨other, hhere, hother⟩ := Nat.find_spec hsome
  refine ⟨Nat.find hsome, other, Nat.find_min' hsome ⟨row, hrow, h⟩, hhere, hother, ?_⟩
  intro k hk another hanother hP
  exact Nat.find_min hsome hk ⟨another, hanother, hP⟩

/-! ### Rows -/

/-- The free space that is read of a row. -/
def available? (row : List Char) : Option Nat := Numeral.read? wordLimit ((words row).getD 3 [])

/-- The mount that is read of a row. -/
def mountOf (row : List Char) : Mount :=
  ⟨String.ofList ((words row).headD []), (available? row).getD 0, pointOf row⟩

theorem available?_eq_some_iff : available? row = some kb ↔ Available row kb := by
  unfold available? Available
  rw [Numeral.read?_eq_some_iff (by decide), List.getD_eq_getElem?_getD]
  cases (words row)[3]? with
  | none =>
    refine iff_of_false ?_ ?_
    · rintro ⟨⟨hempty, -⟩, -⟩
      exact hempty rfl
    · rintro ⟨word, ⟨⟩, -⟩
  | some word => simp [wordLimit, Numeral.bound]

theorem available?_isNone_iff : (available? row).isNone = true ↔ ∀ kb, ¬Available row kb := by
  simp only [← available?_eq_some_iff, Option.isNone_iff_eq_none, Option.eq_none_iff_forall_ne_some]

/-- The error for a row that does not tell its free space. -/
def badRow (row : List Char) : NodeError :=
  .unexpectedOutput "df -P -k" ("invalid available size in line '" ++ String.ofList row ++ "'")

/-- A line that is no row is passed over; a row is a mount, or an error. -/
theorem readMount_eq (line : List Char) : readMount line =
    if isRow line then
      if (available? line).isNone then .error (badRow line) else .ok (some (mountOf line))
    else .ok none := by
  unfold readMount isRow mountOf available? pointOf
  generalize words line = ws
  match ws with
  | [] | [_] | [_, _] | [_, _, _] | [_, _, _, _] | [_, _, _, _, _] => rfl
  | filesystem :: a :: b :: kb :: c :: point :: more =>
    have hsix : decide (6 ≤ (filesystem :: a :: b :: kb :: c :: point :: more).length) = true := by simp
    rw [if_pos hsix]
    simp only [List.map_cons, String.toList_ofList, List.getD_cons_succ, List.getD_cons_zero]
    cases Numeral.read? wordLimit kb <;> rfl

/-- **The mounts of a table** are those of its rows, unless one of these does not tell its free
space. -/
theorem readMounts_eq (table : String) : readMounts table =
    match (rows table).find? fun row => (available? row).isNone with
    | some row => .error (badRow row)
    | none => .ok ((rows table).map mountOf) := by
  unfold readMounts rows bodyLines
  induction (lines table.toList).drop 1 with
  | nil => rfl
  | cons line below ih =>
    rw [List.mapM_cons, readMount_eq]
    by_cases hrow : isRow line = true
    · rw [if_pos hrow, List.filter_cons_of_pos hrow, List.find?_cons]
      by_cases hbad : (available? line).isNone = true
      · rw [if_pos hbad]
        simp only [hbad]
        rfl
      · rw [if_neg hbad]
        simp only [hbad]
        generalize (below.filter isRow).find? _ = bad at ih ⊢
        generalize below.mapM readMount = found at ih ⊢
        cases found with
        | error e =>
          cases bad with
          | some row => exact ih
          | none => cases ih
        | ok found =>
          cases bad with
          | some row => cases ih
          | none => exact congrArg (Except.map (mountOf line :: ·)) ih
    · rw [if_neg hrow, List.filter_cons_of_neg hrow, ← ih]
      cases below.mapM readMount <;> rfl

/-! ### Places for files -/

/-- The names in a path begin with those in another just if it is that one or lies below. -/
theorem names_prefix_iff {directory path : String} : names directory <+: names path ↔
    path = directory ∨ startsWith path (directory ++ "/") = true := by
  have hjoin : ∀ (ps qs : List (List Char)), ps ≠ [] → qs ≠ [] →
      ['/'].intercalate (ps ++ qs) = ['/'].intercalate ps ++ '/' :: ['/'].intercalate qs := by
    intro ps qs hps hqs
    induction ps with
    | nil => exact absurd rfl hps
    | cons p ps ih =>
      cases ps with
      | nil => simp [List.intercalate_cons_of_ne_nil hqs]
      | cons p' ps =>
        rw [List.cons_append, List.intercalate_cons_of_ne_nil (by simp), ih (List.cons_ne_nil p' ps),
          List.intercalate_cons_of_ne_nil (List.cons_ne_nil p' ps)]
        simp only [List.append_assoc]
  unfold names
  rw [startsWith, List.isPrefixOf_iff_prefix, String.toList_append]
  constructor
  · rintro ⟨rest, hrest⟩
    have hpath := @List.intercalate_splitOn _ path.toList _ _ '/'
    have hdirectory := @List.intercalate_splitOn _ directory.toList _ _ '/'
    rw [← hrest] at hpath
    cases rest with
    | nil =>
      rw [List.append_nil, hdirectory] at hpath
      exact Or.inl (String.toList_inj.mp hpath.symm)
    | cons name rest =>
      refine Or.inr ⟨['/'].intercalate (name :: rest), ?_⟩
      rw [← hpath, hjoin _ _ (List.splitOn_ne_nil _ _) (List.cons_ne_nil name rest), hdirectory]
      simp
  · rintro (rfl | ⟨rest, hrest⟩)
    · exact List.prefix_refl _
    · rw [← hrest, List.append_assoc]
      exact ⟨rest.splitOn '/', (List.splitOn_append_cons_self _ _).symm⟩

theorem isPseudo_mountOf_iff (hrow : isRow row = true) : (mountOf row).isPseudo = true ↔ Reserved row := by
  obtain ⟨filesystem, more, hwords⟩ : ∃ filesystem more, words row = filesystem :: more := by
    refine List.exists_cons_of_ne_nil fun hnil => ?_
    rw [isRow, hnil] at hrow
    exact absurd hrow (by decide)
  have hfilesystem : ∀ name : String, name = String.ofList filesystem ↔ filesystem = name.toList := by
    intro name
    rw [eq_comm, ← String.toList_inj, String.toList_ofList]
  unfold Mount.isPseudo pseudoFilesystems systemDirectories Reserved mountOf
  simp only [Bool.or_eq_true, List.any_eq_true, beq_iff_eq, ← names_prefix_iff, List.contains_eq_mem,
    decide_eq_true_eq, hwords, List.headD_cons, List.head?_cons, Option.some.injEq]
  refine or_congr_left ?_
  constructor
  · exact fun hmem => ⟨_, hmem, (hfilesystem _).mp rfl⟩
  · rintro ⟨name, hmem, hname⟩
    rwa [← (hfilesystem name).mpr hname]

/-- What is asked for does not leave 64 bits up to this bound. -/
theorem toNat_kibibytes (hbound : gigabytes ≤ 17592186044415) :
    (kibibytes gigabytes).toNat = gigabytes * 2 ^ 20 := by
  unfold kibibytes
  simp only [UInt64.toNat_mul, UInt64.toNat_ofNat', UInt64.toNat_ofNat]
  omega

theorem hasSpace_mountOf_iff (hbound : gigabytes ≤ 17592186044415) (hrow : isRow row = true)
    (hkb : Available row kb) : (mountOf row).hasSpace gigabytes = true ↔ Fits gigabytes row := by
  have hread : available? row = some kb := available?_eq_some_iff.mpr hkb
  have hspace : (mountOf row).availableKb = kb := by rw [mountOf, hread, Option.getD_some]
  unfold Mount.hasSpace Fits
  rw [Bool.and_eq_true, decide_eq_true_eq, Bool.not_eq_true', ← Bool.not_eq_true,
    isPseudo_mountOf_iff hrow, hspace, toNat_kibibytes hbound]
  constructor
  · rintro ⟨hle, hfree⟩
    exact ⟨kb, hkb, hle, hfree⟩
  · rintro ⟨kb', hkb', hle, hfree⟩
    obtain rfl := Option.some.inj (hread.symm.trans (available?_eq_some_iff.mpr hkb'))
    exact ⟨hle, hfree⟩

/-! ### The choice -/

theorem chooseMountPoint_eq (gigabytes : Nat) (table : String) : chooseMountPoint gigabytes table =
    match (rows table).find? fun row => (available? row).isNone with
    | some row => .error (badRow row)
    | none =>
      match (rows table).find? fun row => (mountOf row).hasSpace gigabytes with
      | some row => .ok (pointOf row)
      | none => .error (.unexpectedOutput "df -P -k"
          ("no partition with " ++ toString gigabytes ++ "GB free space")) := by
  unfold chooseMountPoint
  rw [readMounts_eq]
  cases (rows table).find? fun row => (available? row).isNone with
  | some row => rfl
  | none =>
    have hfind : ((rows table).map mountOf).find? (·.hasSpace gigabytes) =
        ((rows table).find? fun row => (mountOf row).hasSpace gigabytes).map mountOf := List.find?_map
    simp only [bind, Except.bind, hfind]
    cases (rows table).find? fun row => (mountOf row).hasSpace gigabytes <;> rfl

theorem chosen_chooseMountPoint (hbound : gigabytes ≤ 17592186044415) (table : String) :
    Chosen gigabytes (rows table) (chooseMountPoint gigabytes table) := by
  rw [chooseMountPoint_eq]
  cases hbad : (rows table).find? fun row => (available? row).isNone with
  | some row =>
    obtain ⟨i, hrow⟩ := (find?_eq_some_iff_exists_firstAt fun _ => available?_isNone_iff).mp hbad
    exact .unreadable hrow
  | none =>
    have hreadable : ∀ row ∈ rows table, ∃ kb, Available row kb := by
      intro row hrow
      by_contra hnone
      exact List.find?_eq_none.mp hbad row hrow (available?_isNone_iff.mpr (not_exists.mp hnone))
    have hspace : ∀ row ∈ rows table,
        ((mountOf row).hasSpace gigabytes = true ↔ Fits gigabytes row) := by
      intro row hrow
      obtain ⟨kb, hkb⟩ := hreadable row hrow
      exact hasSpace_mountOf_iff hbound (List.mem_filter.mp hrow).2 hkb
    cases hfound : (rows table).find? fun row => (mountOf row).hasSpace gigabytes with
    | some row =>
      obtain ⟨i, hrow⟩ := (find?_eq_some_iff_exists_firstAt fun _ => Iff.rfl).mp hfound
      refine .found hreadable ⟨hrow.here, (hspace row hrow.mem).mp hrow.holds, ?_⟩
      intro j hj other hother hfits
      exact hrow.first j hj other hother ((hspace other (List.mem_of_getElem? hother)).mpr hfits)
    | none =>
      refine .nowhere hreadable fun row hrow hfits => ?_
      exact List.find?_eq_none.mp hfound row hrow ((hspace row hrow).mpr hfits)

/-- The rows leave no choice. -/
theorem Chosen.unique {answer' : Except NodeError String} (h : Chosen gigabytes ls answer)
    (h' : Chosen gigabytes ls answer') : answer = answer' := by
  have hapart : ∀ {i row}, FirstAt (fun row => ∀ kb, ¬Available row kb) ls i row →
      ¬∀ row ∈ ls, ∃ kb, Available row kb := by
    intro i row hrow hreadable
    obtain ⟨kb, hkb⟩ := hreadable row hrow.mem
    exact hrow.holds kb hkb
  cases h with
  | unreadable hrow =>
    cases h' with
    | unreadable hrow' =>
      obtain ⟨-, rfl⟩ := hrow.unique hrow'
      rfl
    | found hreadable => exact absurd hreadable (hapart hrow)
    | nowhere hreadable => exact absurd hreadable (hapart hrow)
  | found hreadable hrow =>
    cases h' with
    | unreadable hrow' => exact absurd hreadable (hapart hrow')
    | found _ hrow' =>
      obtain ⟨-, rfl⟩ := hrow.unique hrow'
      rfl
    | nowhere _ hnone => exact absurd hrow.holds (hnone _ hrow.mem)
  | nowhere hreadable hnone =>
    cases h' with
    | unreadable hrow' => exact absurd hreadable (hapart hrow')
    | found _ hrow' => exact absurd hrow'.holds (hnone _ hrow'.mem)
    | nowhere => rfl

/-- Where there is space for more, there is space for less. -/
theorem Fits.of_le {less : Nat} (hle : less ≤ gigabytes) (h : Fits gigabytes row) : Fits less row := by
  obtain ⟨kb, hkb, hspace, hfree⟩ := h
  exact ⟨kb, hkb, (Nat.mul_le_mul_right _ hle).trans hspace, hfree⟩

/-- What negligible rows have not is found in the same row, with and without them. -/
theorem Alike.find?_eq {p : List Char → Bool} (h : Alike ls ms)
    (hp : ∀ line, Negligible line → p line = false) :
    (ls.filter isRow).find? p = (ms.filter isRow).find? p := by
  induction h with
  | nil => rfl
  | both line _ ih =>
    by_cases hrow : isRow line = true
    · rw [List.filter_cons_of_pos hrow, List.filter_cons_of_pos hrow, List.find?_cons, List.find?_cons, ih]
    · rw [List.filter_cons_of_neg hrow, List.filter_cons_of_neg hrow, ih]
  | left hline _ ih =>
    rw [List.filter_cons_of_pos hline.row, List.find?_cons_of_neg (by simp [hp _ hline]), ih]
  | right hline _ ih =>
    rw [List.filter_cons_of_pos hline.row, List.find?_cons_of_neg (by simp [hp _ hline]), ih]

theorem Alike.chooseMountPoint_eq {table table' : String} (h : Alike (bodyLines table) (bodyLines table')) :
    chooseMountPoint gigabytes table = chooseMountPoint gigabytes table' := by
  have hreadable : ∀ line, Negligible line → (available? line).isNone = false := by
    intro line hline
    obtain ⟨kb, hkb⟩ := hline.readable
    rw [available?_eq_some_iff.mpr hkb]
    rfl
  have hspace : ∀ line, Negligible line → (mountOf line).hasSpace gigabytes = false := by
    intro line hline
    unfold Mount.hasSpace
    rw [(isPseudo_mountOf_iff hline.row).mpr hline.reserved, Bool.not_true, Bool.and_false]
  rw [Node.chooseMountPoint_eq, Node.chooseMountPoint_eq]
  unfold rows
  rw [h.find?_eq hreadable, h.find?_eq hspace]

theorem runOn_findSpace {σ : Type} {exec : Request → StateM σ Answer} {cache : Cache} {st st' : σ}
    {table stderr : String} (h : exec (change "df -P -k" false) st = (.ok ⟨0, table, stderr⟩, st')) :
    (findSpace gigabytes).runOn exec cache st = ((chooseMountPoint gigabytes table, cache), st') := by
  rw [findSpace, Plan.executeChecked_eq, runOn_turn_bind rfl, h]
  rfl

/-- **Where there is space**: of the table that a node shows of its file systems, the first row is
chosen that has enough space and is a place for files, by its place among all names of a path; a row that
does not tell its space is an end to it, wherever it stands. Where there is space for more, there is for
less, no further down; rows that are no place for files count for nothing. The space that is asked for
never exceeds 64 bits. -/
theorem findSpace_chooses (gigabytes : Nat) (hbound : gigabytes ≤ 17592186044415) (table : String) :
    (UInt64.ofNat gigabytes * 1024 * 1024).toNat = gigabytes * 2 ^ 20 ∧
    (∀ {σ : Type} (exec : Request → StateM σ Answer) (cache : Cache) (st st' : σ) (stderr : String),
      exec (change "df -P -k" false) st = (.ok ⟨0, table, stderr⟩, st') →
      (findSpace gigabytes).runOn exec cache st = ((chooseMountPoint gigabytes table, cache), st')) ∧
    (∀ answer, Chosen gigabytes (rows table) answer ↔ chooseMountPoint gigabytes table = answer) ∧
    (∀ less ≤ gigabytes, ∀ point, chooseMountPoint gigabytes table = .ok point →
      ∃ i row j other, FirstAt (Fits gigabytes) (rows table) i row ∧ pointOf row = point ∧
        j ≤ i ∧ FirstAt (Fits less) (rows table) j other ∧
        chooseMountPoint less table = .ok (pointOf other)) ∧
    ∀ table', Alike (bodyLines table) (bodyLines table') →
      chooseMountPoint gigabytes table = chooseMountPoint gigabytes table' := by
  have hchosen : ∀ {g : Nat} {answer}, g ≤ gigabytes →
      (Chosen g (rows table) answer ↔ chooseMountPoint g table = answer) := by
    intro g answer hg
    have hchoice := chosen_chooseMountPoint (hg.trans hbound) table
    constructor
    · exact hchoice.unique
    · rintro rfl
      exact hchoice
  refine ⟨toNat_kibibytes hbound, fun exec cache st st' stderr => runOn_findSpace,
    fun answer => hchosen (Nat.le_refl _), ?_, fun table' h => h.chooseMountPoint_eq⟩
  · intro less hle point hpoint
    cases (hchosen (Nat.le_refl _)).mpr hpoint with
    | @found i row hreadable hrow =>
      obtain ⟨j, other, hj, hother⟩ := exists_firstAt hrow.here (hrow.holds.of_le hle)
      exact ⟨i, row, j, other, hrow, rfl, hj, hother, (hchosen hle).mp (.found hreadable hother)⟩

/-- Exactly enough space is enough, beside a directory of the system and not below it. -/
theorem findSpace_chooses_beside_boot :
    1 ≤ 17592186044415 ∧
      Chosen 1 (rows ("Filesystem 1024-blocks Used Available Capacity Mounted on\n" ++
        "tmpfs 9 0 9999999 0% /mnt\n/dev/vda1 9 0 9999999 1% /boot/efi\n" ++
        "/dev/vda2 9 0 1048575 1% /\n/dev/vda3 9 0 1048576 1% /bootdisk/my  data\n"))
        (.ok "/bootdisk/my data") :=
  ⟨by decide, ((findSpace_chooses 1 (by decide) _).2.2.1 _).mpr (by decide +kernel)⟩

end Testbed.Node

import Testbed.Os.Release
import Testbed.Proofs.Text.Stripped

/-!
# What an `os-release` text says

The description of a system is read by trimming, cutting and stripping. `Describes` says what it
should tell in terms of the rows of the text: each field is what the last row that assigns it says.

* `rows`: the rows of a text.
* `Assigns`: what a row assigns to a key.
* `LastGives`: what the last of the rows that assign to a key gives it.
* `Describes`: the description.

Results:
* `assigns_iff`, `lastGives_iff`: the assignments that are read are those of the rows, and of several
  to one key the last counts.
* `assignments_eq`: it makes no difference how a row ends.

Headline: **`describes_iff`**: the description that is read is the one that the rows give.
-/

namespace Testbed.Os

open Text (Stripped cutAt? isBlank lower stripped_trim trim trim_of_stripped trim_within trimmed words)

variable {row left right : List Char} {before after : List (List Char)} {key value : String}
  {value? : Option String}

/-- The rows of a text: what stands between line feeds. -/
def rows (text : String) : List (List Char) := text.toList.splitOn '\n'

/-! ## One row -/

/-- **What a row assigns to a key.** Blanks around the row, the key and the value do not count, nor do
quotes around the value, double ones outside single ones; the first `=` ends the key. A row that
starts with `#` is a comment. -/
inductive Assigns (row : List Char) : String → String → Prop
  | intro {content before after written plain : List Char} {key value : String}
      (hrow : Stripped isBlank row content) (hcomment : content.head? ≠ some '#')
      (hcut : content = before ++ '=' :: after) (hfirst : '=' ∉ before)
      (hkey : Stripped isBlank before key.toList) (hwritten : Stripped isBlank after written)
      (hplain : Stripped (· == '"') written plain)
      (hvalue : Stripped (· == '\'') plain value.toList) : Assigns row key value

/-- **The assignment that is read is the one that the row makes.** -/
theorem assigns_iff : Assigns row key value ↔ assignment? row = some (key, value) := by
  constructor
  · rintro ⟨hrow, hcomment, hcut, hfirst, hkey, hwritten, hplain, hvalue⟩
    unfold assignment? unquote strip
    rw [trim_of_stripped hrow, if_neg hcomment, Text.cutAt?_eq_some_iff.mpr ⟨hcut, hfirst⟩]
    simp only [Option.map_some, trim_of_stripped hkey, trim_of_stripped hwritten,
      Text.stripped_iff.mp hplain, Text.stripped_iff.mp hvalue, String.ofList_toList]
  · intro h
    unfold assignment? at h
    by_cases hcomment : (trim row).head? = some '#'
    · rw [if_pos hcomment] at h
      cases h
    · rw [if_neg hcomment] at h
      obtain ⟨⟨before, after⟩, hcut, hfields⟩ := Option.map_eq_some_iff.mp h
      obtain ⟨rfl, rfl⟩ := Prod.mk.inj hfields
      obtain ⟨hcut, hfirst⟩ := Text.cutAt?_eq_some_iff.mp hcut
      refine .intro (stripped_trim row) hcomment hcut hfirst ?_ (stripped_trim after)
        (Text.stripped_iff.mpr rfl) ?_
      · rw [String.toList_ofList]
        exact stripped_trim before
      · rw [String.toList_ofList]
        exact Text.stripped_iff.mpr rfl

/-- Blanks around a row make no difference. -/
theorem assignment?_within (hleft : ∀ c ∈ left, isBlank c = true) (hright : ∀ c ∈ right, isBlank c = true) :
    assignment? (left ++ (row ++ right)) = assignment? row := by
  unfold assignment?
  rw [trim_within hleft hright]

/-- A row without `=` assigns nothing. -/
theorem assignment?_of_not_mem (h : '=' ∉ row) : assignment? row = none := by
  cases hassigns : assignment? row with
  | none => rfl
  | some field =>
    obtain ⟨⟨⟨left, right, hrow, -⟩, -⟩, -, hcut, -⟩ := assigns_iff.mpr hassigns
    subst hcut
    exact absurd (by simp [hrow]) h

/-- A comment assigns nothing. -/
theorem assignment?_of_comment (hleft : ∀ c ∈ left, isBlank c = true) (text : List Char) :
    assignment? (left ++ '#' :: text) = none := by
  unfold assignment?
  rw [Text.trim_blanks_append hleft, if_pos ((stripped_trim _).head (by decide))]

/-- **A row is read in two parts**, each for itself: the key before the first `=` and the value after
it. -/
theorem assignment?_cut {before after : List Char} (h : '=' ∉ before) :
    assignment? (before ++ '=' :: after) = if (trim before).head? = some '#' then none
      else some (String.ofList (trim before), String.ofList (unquote after)) := by
  obtain ⟨dropped, hafter, hdropped⟩ := Text.exists_dropRight_append isBlank after
  have hleft : ∀ c ∈ before.takeWhile isBlank, isBlank c = true :=
    fun c hc => List.all_eq_true.mp List.all_takeWhile c hc
  have htrimBefore : trim (before.dropWhile isBlank) = trim before := by
    have hblanks := @Text.trim_blanks_append (before.dropWhile isBlank) _ hleft
    rw [List.takeWhile_append_dropWhile] at hblanks
    exact hblanks.symm
  have htrimAfter : trim (Text.dropRight isBlank after) = trim after := by
    have hblanks := @Text.trim_append_blanks (Text.dropRight isBlank after) dropped hdropped
    rw [← hafter] at hblanks
    exact hblanks.symm
  have hmem : '=' ∉ before.dropWhile isBlank := fun hmem => h ((List.dropWhile_sublist _).subset hmem)
  have hhead : (before.dropWhile isBlank ++ '=' :: Text.dropRight isBlank after).head? = some '#' ↔
      (trim before).head? = some '#' := by
    rw [← htrimBefore]
    cases hbefore : before.dropWhile isBlank with
    | nil => simp [trim, Text.trimLeft, Text.trimRight, Text.dropRight]
    | cons c cs =>
      have hc : isBlank c = false := Text.head_dropWhile (by rw [hbefore]; rfl)
      rw [(stripped_trim (c :: cs)).head hc]
      rfl
  have htrim : trim (before ++ '=' :: after) =
      before.dropWhile isBlank ++ '=' :: Text.dropRight isBlank after :=
    trim_of_stripped (Text.stripped_append_cons (by decide) before after)
  unfold assignment? unquote
  simp only [htrim, hhead, Text.cutAt?_eq_some_iff.mpr ⟨rfl, hmem⟩, Option.map_some, htrimBefore, htrimAfter]

/-! ## All rows -/

/-- A carriage return at the end of a row is a blank. -/
theorem assignment?_withoutReturn (row : List Char) :
    assignment? (Text.withoutReturn row) = assignment? row := by
  unfold Text.withoutReturn
  by_cases hlast : row.getLast? = some '\r'
  · rw [if_pos hlast]
    obtain ⟨row, rfl⟩ := List.getLast?_eq_some_iff.mp hlast
    rw [List.dropLast_concat]
    exact (@assignment?_within row [] ['\r'] (by simp) (List.all_eq_true.mp (by decide))).symm
  · rw [if_neg hlast]

/-- **It makes no difference how a row ends**, and whether the last one does. -/
theorem assignments_eq (text : String) : assignments text = (rows text).filterMap assignment? := by
  have hrows : ∀ ps : List (List Char),
      (Text.endedLines ps).filterMap assignment? = ps.filterMap assignment? := by
    intro ps
    induction ps with
    | nil => rfl
    | cons p ps ih =>
      cases ps with
      | nil => cases p <;> rfl
      | cons q ps =>
        show (Text.withoutReturn p :: Text.endedLines (q :: ps)).filterMap assignment? = _
        rw [List.filterMap_cons, assignment?_withoutReturn, ih, ← List.filterMap_cons]
  exact hrows (rows text)

/-- **What the last of the rows that assign to a key gives it**, if there is one. -/
inductive LastGives (rows : List (List Char)) (key : String) : Option String → Prop
  | given {before : List (List Char)} {row : List Char} {after : List (List Char)} {value : String}
      (hrows : rows = before ++ row :: after) (hrow : Assigns row key value)
      (hlast : ∀ row ∈ after, ∀ value, ¬ Assigns row key value) : LastGives rows key (some value)
  | never (h : ∀ row ∈ rows, ∀ value, ¬ Assigns row key value) : LastGives rows key none

theorem lastValue?_append (fields later : List (String × String)) :
    lastValue? key (fields ++ later) = (lastValue? key later).or (lastValue? key fields) := by
  unfold lastValue?
  rw [List.reverse_append, List.lookup_append]

theorem lastValue?_eq_none_iff {rows : List (List Char)} :
    lastValue? key (rows.filterMap assignment?) = none ↔ ∀ row ∈ rows, ∀ value, ¬ Assigns row key value := by
  unfold lastValue?
  rw [List.lookup_eq_none_iff]
  constructor
  · intro h row hrow value hassigns
    have hmem : (key, value) ∈ (rows.filterMap assignment?).reverse :=
      List.mem_reverse.mpr (List.mem_filterMap.mpr ⟨row, hrow, assigns_iff.mp hassigns⟩)
    simpa using h _ hmem
  · rintro h ⟨key', value⟩ hfield
    obtain ⟨row, hrow, hassigns⟩ := List.mem_filterMap.mp (List.mem_reverse.mp hfield)
    have hkey : key ≠ key' := by
      rintro rfl
      exact h row hrow value (assigns_iff.mpr hassigns)
    simpa using hkey

theorem lastValue?_row :
    lastValue? key ([row].filterMap assignment?) = some value ↔ Assigns row key value := by
  rw [assigns_iff, List.filterMap_cons]
  cases assignment? row with
  | none => simp [lastValue?]
  | some field =>
    obtain ⟨key', value'⟩ := field
    by_cases hkey : key = key'
    · simp [lastValue?, hkey]
    · have hdiffers : (key == key') = false := beq_eq_false_iff_ne.mpr hkey
      simp [lastValue?, List.lookup_cons, hdiffers, Ne.symm hkey]

/-- **Of several assignments to a key the last counts.** -/
theorem lastGives_iff {rows : List (List Char)} :
    LastGives rows key value? ↔ lastValue? key (rows.filterMap assignment?) = value? := by
  have hsplit : ∀ before row after, lastValue? key ((before ++ row :: after).filterMap assignment?) =
      ((lastValue? key (after.filterMap assignment?)).or (lastValue? key ([row].filterMap assignment?))).or
        (lastValue? key (before.filterMap assignment?)) := by
    intro before row after
    rw [List.filterMap_append, lastValue?_append, ← List.singleton_append, List.filterMap_append,
      lastValue?_append]
  constructor
  · intro h
    cases h with
    | given hrows hrow hlast =>
      rw [hrows, hsplit, lastValue?_eq_none_iff.mpr hlast, lastValue?_row.mpr hrow]
      rfl
    | never h => exact lastValue?_eq_none_iff.mpr h
  · rintro rfl
    induction rows with
    | nil => exact .never (by simp)
    | cons row rows ih =>
      have hfirst := hsplit [] row rows
      rw [List.nil_append] at hfirst
      cases hrows : lastValue? key (rows.filterMap assignment?) with
      | some value =>
        rw [hrows] at ih hfirst
        rw [hfirst]
        obtain ⟨rfl, hrow, hlast⟩ := ih
        exact .given (List.cons_append ..).symm hrow hlast
      | none =>
        have hnever := lastValue?_eq_none_iff.mp hrows
        rw [hfirst, hrows]
        cases hrow : lastValue? key ([row].filterMap assignment?) with
        | some value => exact .given (List.nil_append _).symm (lastValue?_row.mp hrow) hnever
        | none =>
          refine .never (List.forall_mem_cons.mpr ⟨?_, hnever⟩)
          exact lastValue?_eq_none_iff.mp hrow row (List.mem_singleton_self row)

/-! ## The description -/

/-- **What a text says about the system.** The distribution and those it is derived from are in lower
case. A system that no row gives a name to show is called by its distribution and version. -/
structure Describes (text : String) (release : Release) : Prop where
  id : ∃ value?, LastGives (rows text) "ID" value? ∧ release.id = lower (value?.getD "")
  idLike : ∃ value?, LastGives (rows text) "ID_LIKE" value? ∧
    release.idLike = (words (value?.getD "").toList).map fun w => lower (String.ofList w)
  versionId : ∃ value?, LastGives (rows text) "VERSION_ID" value? ∧ release.versionId = value?.getD ""
  prettyName : ∃ value?, LastGives (rows text) "PRETTY_NAME" value? ∧
    release.prettyName = value?.getD (trimmed (release.id ++ " " ++ release.versionId))

/-- **The description that is read is the one that the rows give.** -/
theorem describes_iff {text : String} {release : Release} :
    Describes text release ↔ Release.read text = release := by
  have hvalue : ∀ key value?, LastGives (rows text) key value? ↔
      lastValue? key (assignments text) = value? := by
    intro key value?
    rw [assignments_eq]
    exact lastGives_iff
  constructor
  · rintro ⟨⟨id, hid, hid'⟩, ⟨idLike, hidLike, hidLike'⟩, ⟨version, hversion, hversion'⟩,
      ⟨name, hname, hname'⟩⟩
    obtain ⟨_, _, _, _⟩ := release
    simp only at hid' hidLike' hversion' hname'
    subst hid' hidLike' hversion' hname'
    unfold Release.read
    simp only [(hvalue _ _).mp hid, (hvalue _ _).mp hidLike, (hvalue _ _).mp hversion,
      (hvalue _ _).mp hname]
  · rintro rfl
    have hlast : ∀ key, LastGives (rows text) key (lastValue? key (assignments text)) :=
      fun key => (hvalue key _).mpr rfl
    unfold Release.read
    constructor <;> exact ⟨_, hlast _, by simp only⟩

end Testbed.Os

import Mathlib.Data.List.Pairwise
import Mathlib.Logic.Relation
import Testbed.Proofs.Os.Release
import Testbed.Proofs.Text.LetterCase

/-!
# Descriptions in another spelling

The same description can be written in many ways. None of the differences that `Respelling` lists
changes what is read.

* `Idle`: rows that say nothing about the system.
* `Writes`, `Quoted`: a row that writes an assignment, and the ways to write its value.
* `SameRow`: rows that differ in blanks, in quotes or in the case of letters.
* `Respelling`: one change of a text, `Alike`: any number of them, forth and back.

Results:
* `said?_of_idle`, `said?_of_sameRow`: what a change of one row leaves as it is.
* `lastValue?_of_perm`: the order of assignments to distinct keys does not matter.
* `lastValue?_of_respelling`: what one change leaves as it is.

Headline: **`read_of_alike`**: all spellings are read alike.
-/

namespace Testbed.Os

open Text (Stripped isBlank lower stripped_of_not_mem trim trim_of_stripped trim_within words)

variable {row row' key written written' value : List Char}

/-! ## Rows -/

/-- The keys that are read. -/
def fieldKeys : List String := ["ID", "ID_LIKE", "VERSION_ID", "PRETTY_NAME"]

/-- The values of these keys are read in lower case. -/
def IsCaseless (key : String) : Prop := key = "ID" ∨ key = "ID_LIKE"

instance (key : String) : Decidable (IsCaseless key) := inferInstanceAs (Decidable (_ ∨ _))

/-- **A row that says nothing about the system**: a blank row, a comment, a row without `=`, and an
assignment to another key. -/
inductive Idle (row : List Char) : Prop
  | blank (h : ∀ c ∈ row, isBlank c = true)
  | comment {margin text : List Char} (hmargin : ∀ c ∈ margin, isBlank c = true)
      (h : row = margin ++ '#' :: text)
  | unassigning (h : '=' ∉ row)
  | other {key value : String} (h : Assigns row key value) (hkey : key ∉ fieldKeys)

/-- **A row that writes an assignment**, with blanks around the row, the key and the value. -/
def Writes (key written row : List Char) : Prop :=
  ∃ a b c d, (∀ ch ∈ a ++ b ++ (c ++ d), isBlank ch = true) ∧
    row = (a ++ (key ++ b)) ++ '=' :: (c ++ (written ++ d))

/-- A value that reads the same with or without quotes: it has no quotes of its own, and no blanks at
its ends. -/
def Plain (value : List Char) : Prop := '"' ∉ value ∧ '\'' ∉ value ∧ Stripped isBlank value value

/-- **The ways to write a value**: bare, in double quotes and in single quotes. -/
inductive Quoted (value : List Char) : List Char → Prop
  | bare : Quoted value value
  | double : Quoted value ('"' :: (value ++ ['"']))
  | single : Quoted value ('\'' :: (value ++ ['\'']))

/-- **Rows that say the same**: a carriage return more at the end, other blanks, other quotes, and
other ASCII letters where the case does not count. -/
inductive SameRow : List Char → List Char → Prop
  | lineEnd (row : List Char) : SameRow row (row ++ ['\r'])
  | blanks {key written row row' : List Char} (hkey : '=' ∉ key) (h : Writes key written row)
      (h' : Writes key written row') : SameRow row row'
  | quotes {key value written written' row row' : List Char} (hkey : '=' ∉ key) (hvalue : Plain value)
      (hquoted : Quoted value written) (hquoted' : Quoted value written')
      (h : Writes key written row) (h' : Writes key written' row') : SameRow row row'
  | letters {key value value' : String} {row row' : List Char} (hkey : IsCaseless key)
      (hletters : value.toLower = value'.toLower) (h : Assigns row key value)
      (h' : Assigns row' key value') : SameRow row row'

/-! ## Texts -/

/-- Rows that do not assign to the same key. -/
def Distinct (row row' : List Char) : Prop :=
  ∀ key value value', Assigns row key value → ¬ Assigns row' key value'

/-- **One change of a text**: an idle row more, a row spelled in another way, or rows that assign to
distinct keys in another order. -/
inductive Respelling : List (List Char) → List (List Char) → Prop
  | idle {before after : List (List Char)} {row : List Char} (h : Idle row) :
      Respelling (before ++ after) (before ++ row :: after)
  | row {before after : List (List Char)} {row row' : List Char} (h : SameRow row row') :
      Respelling (before ++ row :: after) (before ++ row' :: after)
  | order {before block block' after : List (List Char)} (hperm : block.Perm block')
      (hdistinct : block.Pairwise Distinct) :
      Respelling (before ++ (block ++ after)) (before ++ (block' ++ after))

/-- **Texts that differ in spelling only.** -/
def Alike (text text' : String) : Prop := Relation.EqvGen Respelling (rows text) (rows text')

/-! ## What a row says -/

/-- A value as far as it counts for a key. -/
def folded (key value : String) : String := if IsCaseless key then value.toLower else value

/-- What a row says about the system. -/
def said? (row : List Char) : Option (String × String) :=
  (assignment? row).bind fun (key, value) =>
    if key ∈ fieldKeys then some (key, folded key value) else none

theorem said?_eq_some {key value : String} (h : said? row = some (key, value)) :
    ∃ value', Assigns row key value' := by
  obtain ⟨⟨key', value'⟩, hassigns, hsaid⟩ := Option.bind_eq_some_iff.mp h
  simp only at hsaid
  split at hsaid
  · cases hsaid
    exact ⟨value', assigns_iff.mpr hassigns⟩
  · cases hsaid

theorem said?_of_none (h : assignment? row = none) : said? row = none := by
  unfold said?
  rw [h]
  rfl

/-- **An idle row says nothing.** -/
theorem said?_of_idle (h : Idle row) : said? row = none := by
  cases h with
  | blank h =>
    have hrow : '=' ∉ row := fun hmem => absurd (h '=' hmem) (by decide)
    exact said?_of_none (assignment?_of_not_mem hrow)
  | comment hmargin h =>
    rw [h]
    exact said?_of_none (assignment?_of_comment hmargin _)
  | unassigning h => exact said?_of_none (assignment?_of_not_mem h)
  | other h hkey =>
    unfold said?
    rw [assigns_iff.mp h]
    exact if_neg hkey

/-- Of a row that writes an assignment, the blanks around the key and the value are not read. -/
theorem assignment?_of_writes (hkey : '=' ∉ key) (h : Writes key written row) :
    assignment? row = if (trim key).head? = some '#' then none
      else some (String.ofList (trim key), String.ofList (unquote written)) := by
  obtain ⟨a, b, c, d, hblank, rfl⟩ := h
  simp only [List.forall_mem_append] at hblank
  obtain ⟨⟨ha, hb⟩, hc, hd⟩ := hblank
  have hno : ∀ cs : List Char, (∀ ch ∈ cs, isBlank ch = true) → '=' ∉ cs :=
    fun cs hcs hmem => absurd (hcs '=' hmem) (by decide)
  have hfirst : '=' ∉ a ++ (key ++ b) := by simp [hno a ha, hkey, hno b hb]
  rw [assignment?_cut hfirst, trim_within ha hb]
  unfold unquote
  rw [trim_within hc hd]

/-- **Quotes around a plain value** are taken off. -/
theorem unquote_of_quoted (hvalue : Plain value) (h : Quoted value written) : unquote written = value := by
  obtain ⟨hdouble, hsingle, hends⟩ := hvalue
  have hquotes : ∀ q cs, Stripped (· == q) cs value → Stripped (· == q) (q :: (cs ++ [q])) value :=
    fun q cs hcs => @Stripped.within _ cs value [q] [q] hcs (by simp) (by simp)
  have htrim : ∀ q, isBlank q = false → trim (q :: (value ++ [q])) = q :: (value ++ [q]) := by
    intro q hq
    refine trim_of_stripped (Text.stripped_self_iff.mpr ?_)
    rintro c (hc | hc)
    · cases hc
      exact hq
    · rw [← List.cons_append, List.getLast?_concat] at hc
      cases hc
      exact hq
  unfold unquote strip
  cases h with
  | bare =>
    rw [trim_of_stripped hends, Text.stripped_iff.mp (stripped_of_not_mem hdouble), Text.stripped_iff.mp (stripped_of_not_mem hsingle)]
  | double =>
    rw [htrim '"' (by decide), Text.stripped_iff.mp (hquotes _ _ (stripped_of_not_mem hdouble)),
      Text.stripped_iff.mp (stripped_of_not_mem hsingle)]
  | single =>
    have hother : '"' ∉ '\'' :: (value ++ ['\'']) := by simp [hdouble]
    rw [htrim '\'' (by decide), Text.stripped_iff.mp (stripped_of_not_mem hother),
      Text.stripped_iff.mp (hquotes _ _ (stripped_of_not_mem hsingle))]

/-- **Rows that say the same** are read the same. -/
theorem said?_of_sameRow (h : SameRow row row') : said? row = said? row' := by
  have hsame : ∀ {row row'}, assignment? row = assignment? row' → said? row = said? row' := by
    intro row row' h
    unfold said?
    rw [h]
  cases h with
  | lineEnd =>
    have hwithin := @assignment?_within row [] ['\r'] (by simp) (List.all_eq_true.mp (by decide))
    exact hsame hwithin.symm
  | blanks hkey h h' =>
    exact hsame ((assignment?_of_writes hkey h).trans (assignment?_of_writes hkey h').symm)
  | quotes hkey hvalue hquoted hquoted' h h' =>
    apply hsame
    rw [assignment?_of_writes hkey h, assignment?_of_writes hkey h', unquote_of_quoted hvalue hquoted,
      unquote_of_quoted hvalue hquoted']
  | @letters key value value' _ _ hkey hletters h h' =>
    unfold said?
    have hfolded : folded key value = folded key value' := by
      unfold folded
      rw [if_pos hkey, if_pos hkey, hletters]
    rw [assigns_iff.mp h, assigns_iff.mp h']
    simp only [Option.bind_some, hfolded]

/-! ## What the rows of a text say -/

/-- The last value, where no two assignments are to the same key. -/
theorem lastValue?_eq_some_iff_mem {fields : List (String × String)} {key value : String}
    (h : fields.Pairwise fun field field' => field.1 ≠ field'.1) :
    lastValue? key fields = some value ↔ (key, value) ∈ fields := by
  have hmem : ∀ value, lastValue? key fields = some value → (key, value) ∈ fields := by
    intro value hvalue
    obtain ⟨before, after, hfields, -⟩ := List.lookup_eq_some_iff.mp hvalue
    exact List.mem_reverse.mp (hfields ▸ List.mem_append_right _ List.mem_cons_self)
  refine ⟨hmem value, fun hvalue => ?_⟩
  cases hlast : lastValue? key fields with
  | none =>
    have hnone := List.lookup_eq_none_iff.mp hlast (key, value) (List.mem_reverse.mpr hvalue)
    simp at hnone
  | some value' =>
    by_contra hne
    have hdiffers : (key, value) ≠ (key, value') := by
      rintro heq
      cases heq
      exact hne rfl
    have hsymm : Std.Symm fun field field' : String × String => field.1 ≠ field'.1 :=
      ⟨fun _ _ hne => hne.symm⟩
    exact h.forall hvalue (hmem value' hlast) hdiffers rfl

/-- **The order of assignments to distinct keys does not matter.** -/
theorem lastValue?_of_perm {fields fields' : List (String × String)} (hperm : fields.Perm fields')
    (h : fields.Pairwise fun field field' => field.1 ≠ field'.1) (key : String) :
    lastValue? key fields = lastValue? key fields' := by
  have h' := (hperm.pairwise_iff fun hne => hne.symm).mp h
  refine Option.ext fun value => ?_
  rw [lastValue?_eq_some_iff_mem h, lastValue?_eq_some_iff_mem h', hperm.mem_iff]

/-- Rows that assign to distinct keys say something of distinct keys. -/
theorem pairwise_said {rows : List (List Char)} (h : rows.Pairwise Distinct) :
    (rows.filterMap said?).Pairwise fun field field' => field.1 ≠ field'.1 := by
  refine List.Pairwise.filterMap _ (fun row row' hdistinct field hfield field' hfield' => ?_) h
  obtain ⟨key, value⟩ := field
  obtain ⟨key', value'⟩ := field'
  obtain ⟨_, hassigns⟩ := said?_eq_some hfield
  obtain ⟨_, hassigns'⟩ := said?_eq_some hfield'
  rintro rfl
  exact hdistinct _ _ _ hassigns hassigns'

/-- **What one change of a text leaves as it is**: the last that its rows say of each key. -/
theorem lastValue?_of_respelling {rows rows' : List (List Char)} (h : Respelling rows rows')
    (key : String) : lastValue? key (rows.filterMap said?) = lastValue? key (rows'.filterMap said?) := by
  cases h with
  | idle h => rw [List.filterMap_append, List.filterMap_append, List.filterMap_cons, said?_of_idle h]
  | row h =>
    rw [List.filterMap_append, List.filterMap_append, List.filterMap_cons, List.filterMap_cons,
      said?_of_sameRow h]
  | order hperm hdistinct =>
    simp only [List.filterMap_append, lastValue?_append]
    rw [lastValue?_of_perm (hperm.filterMap said?) (pairwise_said hdistinct)]

/-- Any number of changes leave that as it is. -/
theorem lastValue?_of_eqvGen {rows rows' : List (List Char)} (h : Relation.EqvGen Respelling rows rows')
    (key : String) : lastValue? key (rows.filterMap said?) = lastValue? key (rows'.filterMap said?) := by
  induction h with
  | rel _ _ hstep => exact lastValue?_of_respelling hstep key
  | refl _ => rfl
  | symm _ _ _ ih => exact ih.symm
  | trans _ _ _ _ _ ih ih' => exact ih.trans ih'

/-- What is said of a key that is read is its last value, as far as it counts. -/
theorem lastValue?_said {rows : List (List Char)} {key : String} (hkey : key ∈ fieldKeys) :
    lastValue? key (rows.filterMap said?) =
      (lastValue? key (rows.filterMap assignment?)).map (folded key) := by
  induction rows with
  | nil => rfl
  | cons row rows ih =>
    have hrow : lastValue? key ([row].filterMap said?) =
        (lastValue? key ([row].filterMap assignment?)).map (folded key) := by
      simp only [List.filterMap_cons, List.filterMap_nil, said?]
      cases assignment? row with
      | none => rfl
      | some field =>
        obtain ⟨key', value⟩ := field
        by_cases heq : key = key'
        · subst heq
          simp [lastValue?, hkey]
        · have hdiffers : (key == key') = false := beq_eq_false_iff_ne.mpr heq
          by_cases hkey' : key' ∈ fieldKeys
          · simp [lastValue?, List.lookup_cons, hkey', hdiffers]
          · simp [lastValue?, List.lookup_cons, hkey', hdiffers]
    rw [← List.singleton_append, List.filterMap_append, List.filterMap_append, lastValue?_append,
      lastValue?_append, ih, hrow]
    cases lastValue? key (rows.filterMap assignment?) <;> rfl

/-! ## Reading -/

theorem folded_of_caseless {key : String} (h : IsCaseless key) : folded key = String.toLower := by
  funext value
  exact if_pos h

theorem folded_of_not_caseless {key : String} (h : ¬ IsCaseless key) : folded key = id := by
  funext value
  exact if_neg h

/-- **All spellings of a description are read alike.** -/
theorem read_of_alike {text text' : String} (h : Alike text text') :
    Release.read text = Release.read text' := by
  have hsame : ∀ key ∈ fieldKeys, (lastValue? key (assignments text)).map (folded key) =
      (lastValue? key (assignments text')).map (folded key) := by
    intro key hkey
    rw [assignments_eq, assignments_eq, ← lastValue?_said hkey, ← lastValue?_said hkey]
    exact lastValue?_of_eqvGen h key
  have hid := hsame "ID" (by decide)
  have hidLike := hsame "ID_LIKE" (by decide)
  have hversion := hsame "VERSION_ID" (by decide)
  have hname := hsame "PRETTY_NAME" (by decide)
  rw [folded_of_caseless (by decide)] at hid hidLike
  rw [folded_of_not_caseless (by decide), Option.map_id, id, id] at hversion hname
  have hlower : ∀ value? : Option String,
      lower (value?.getD "") = lower ((value?.map String.toLower).getD "") := by
    intro value?
    cases value? with
    | none => rfl
    | some value => exact (Text.lower_toLower value).symm
  have hwords : ∀ value? : Option String,
      (words (value?.getD "").toList).map (fun w => lower (String.ofList w)) =
        (words ((value?.map String.toLower).getD "").toList).map fun w => lower (String.ofList w) := by
    intro value?
    cases value? with
    | none => rfl
    | some value => exact (Text.lowerWords_toLower value).symm
  unfold Release.read
  simp only [hlower (lastValue? "ID" _), hwords (lastValue? "ID_LIKE" _), hid, hidLike, hversion, hname]

end Testbed.Os

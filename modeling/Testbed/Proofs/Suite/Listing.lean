import Mathlib.Data.List.Forall2
import Mathlib.Data.List.ReduceOption
import Testbed.Proofs.Text.Items
import Testbed.Proofs.Text.Stripped
import Testbed.Suite.Selection

/-!
# Names and lists that are given by hand

A name given by hand is trimmed, and a blank one stands for nothing. A list of tests is given as one
text, names with commas between them; so it is the names that its parts stand for, and an empty list is
a choice of the lite set.

* `Names`: what a text given by hand stands for.
* `IsName`: a text that stands for itself; `IsItem`: one that can stand in a list.
* `Lists`: the items of a list.

Results:
* `readDrive_eq_iff`: what is read by hand is what the text stands for.
* `splitList_eq_iff`: a list is read as its items.
* `splitList_append`: the items of two lists with a comma between them.
* `splitList_intercalate`: items that are joined are found again.
* `splitList_eq_nil_iff`: a list without items has nothing but commas and blanks.

Headline: **`lists_come_apart`**: all of it, and what selections make of lists.
-/

namespace Testbed.Suite

open Text (Parted Stripped isBlank trim)

/-! ## Names -/

/-- **What a text given by hand stands for**: nothing if it is blank, and otherwise what is left of it
between blanks. -/
inductive Names (value : String) : Option String → Prop
  | blank (h : Stripped isBlank value.toList []) : Names value none
  | named {drive : String} (hne : drive ≠ "") (h : Stripped isBlank value.toList drive.toList) :
      Names value (some drive)

/-- **A text that stands for itself**: it is not blank, and has no blanks at its ends. -/
def IsName (value : String) : Prop := value ≠ "" ∧ Stripped isBlank value.toList value.toList

variable {value : String} {drive? : Option String}

/-- **What is read by hand is what the text stands for.** -/
theorem readDrive_eq_iff : readDrive value = drive? ↔ Names value drive? := by
  have hstripped := Text.stripped_trim value.toList
  have hread : readDrive value =
      if trim value.toList = [] then none else some (String.ofList (trim value.toList)) := by
    unfold readDrive Text.trimmed
    simp [String.isEmpty_iff]
  rw [hread]
  constructor
  · rintro rfl
    by_cases hblank : trim value.toList = []
    · rw [if_pos hblank]
      exact .blank (hblank ▸ hstripped)
    · rw [if_neg hblank]
      exact .named (by simpa using hblank) (by rwa [String.toList_ofList])
  · intro h
    cases h with
    | blank h => exact if_pos (Text.trim_of_stripped h)
    | @named drive hne h =>
      have htrim : trim value.toList = drive.toList := Text.trim_of_stripped h
      rw [htrim, if_neg (by simpa using hne), String.ofList_toList]

/-- What a text given by hand stands for stands for itself. -/
theorem Names.isName {drive : String} (h : Names value (some drive)) : IsName drive := by
  cases h with
  | named hne h => exact ⟨hne, h.self⟩

theorem names_self_iff : Names value (some value) ↔ IsName value :=
  ⟨Names.isName, fun ⟨hne, h⟩ => .named hne h⟩

instance (value : String) : Decidable (IsName value) :=
  decidable_of_iff (readDrive value = some value) (readDrive_eq_iff.trans names_self_iff)

/-! ## Lists -/

/-- **A text that can stand in a list**: it stands for itself, and has no comma. -/
def IsItem (item : String) : Prop := IsName item ∧ ',' ∉ item.toList

/-- **The items of a list**: in order, the names that the parts between its commas stand for. -/
def Lists (value : String) (items : List String) : Prop :=
  ∃ parts names?, Parted ',' value parts ∧ List.Forall₂ Names parts names? ∧
    items = names?.reduceOption

instance (item : String) : Decidable (IsItem item) := inferInstanceAs (Decidable (_ ∧ _))

variable {items : List String}

/-- A list is read part by part, each as a name given by hand. -/
theorem splitList_eq_filterMap (value : String) :
    splitList value = (Text.items ',' value).filterMap readDrive := by
  unfold splitList Text.items
  rw [List.filterMap_map]
  induction value.toList.splitOn ',' with
  | nil => rfl
  | cons p ps ih =>
    have hread : (readDrive ∘ String.ofList) p =
        if trim p = [] then none else some (String.ofList (trim p)) := by
      simp [readDrive, Text.trimmed, String.isEmpty_iff]
    rw [List.filterMap_cons, hread, ← ih, List.map_cons]
    by_cases hblank : trim p = []
    · simp [hblank]
    · simp [hblank]

/-- **A list is read as its items.** -/
theorem splitList_eq_iff : splitList value = items ↔ Lists value items := by
  have hnames : Names = fun value drive? => readDrive value = drive? := by
    funext value drive?
    exact propext readDrive_eq_iff.symm
  have hforall : ∀ (parts : List String) names?,
      List.Forall₂ Names parts names? ↔ parts.map readDrive = names? := by
    intro parts names?
    rw [hnames, ← List.forall₂_map_left_iff (R := Eq), List.forall₂_eq_eq_eq]
  have hread : ∀ parts : List String,
      parts.filterMap readDrive = (parts.map readDrive).reduceOption := by
    intro parts
    rw [List.reduceOption, List.filterMap_map, Function.id_comp]
  rw [splitList_eq_filterMap, hread]
  constructor
  · rintro rfl
    exact ⟨_, _, Text.parted_iff.mpr rfl, (hforall _ _).mpr rfl, rfl⟩
  · rintro ⟨parts, names?, hparted, hparts, rfl⟩
    rw [Text.parted_iff.mp hparted, (hforall _ _).mp hparts]

/-- What is read from a list can stand in one. -/
theorem isItem_of_mem_splitList {item : String} (h : item ∈ splitList value) : IsItem item := by
  rw [splitList_eq_filterMap, List.mem_filterMap] at h
  obtain ⟨part, hpart, hread⟩ := h
  cases readDrive_eq_iff.mp hread with
  | named hne hstripped =>
    exact ⟨⟨hne, hstripped.self⟩, fun hcomma =>
      Text.not_mem_of_mem_items hpart (hstripped.subset hcomma)⟩

/-- **A comma parts lists.** -/
theorem splitList_append (a b : String) :
    splitList (a ++ "," ++ b) = splitList a ++ splitList b := by
  simp only [splitList_eq_filterMap]
  rw [← List.filterMap_append, ← Text.items_append]
  rfl

/-- **Items that are joined are found again.** -/
theorem splitList_intercalate (h : ∀ item ∈ items, IsItem item) :
    splitList (String.intercalate "," items) = items := by
  by_cases hne : items = []
  · subst hne
    rfl
  · have hitems : Text.items ',' (String.intercalate "," items) = items :=
      Text.items_intercalate hne fun item hitem => (h item hitem).2
    have hread : ∀ item ∈ items, readDrive item = some item := fun item hitem =>
      readDrive_eq_iff.mpr (names_self_iff.mpr (h item hitem).1)
    rw [splitList_eq_filterMap, hitems, List.filterMap_congr hread, List.filterMap_some]

/-- A list without items has nothing but commas and blanks. -/
theorem splitList_eq_nil_iff :
    splitList value = [] ↔ ∀ c ∈ value.toList, c = ',' ∨ isBlank c = true := by
  have hparts : splitList value = [] ↔
      ∀ p ∈ value.toList.splitOn ',', ∀ c ∈ p, isBlank c = true := by
    unfold splitList
    simp only [List.map_eq_nil_iff, List.filter_eq_nil_iff, List.forall_mem_map,
      Bool.not_eq_true', Bool.not_eq_false, List.isEmpty_iff, Text.trim_eq_nil_iff]
  rw [hparts]
  constructor
  · intro h c hc
    by_cases hcomma : c = ','
    · exact .inl hcomma
    · have hpiece : ∃ p ∈ value.toList.splitOn ',', c ∈ p :=
        Text.exists_mem_splitOn_iff.mpr ⟨hc, hcomma⟩
      obtain ⟨p, hp, hcp⟩ := hpiece
      exact .inr (h p hp c hcp)
  · intro h p hp c hcp
    obtain ⟨hc, hcomma⟩ := Text.exists_mem_splitOn_iff.mp ⟨p, hp, hcp⟩
    exact (h c hc).resolve_left hcomma

/-! ## Selections -/

theorem tests_ofStrings (tests skipTests : String) : (Selection.ofStrings tests skipTests).tests =
    if splitList tests = [] then liteTests else splitList tests := by
  unfold Selection.ofStrings orLite
  simp only [List.isEmpty_iff]

/-- **Lists come apart into their items.**

A list is read as its items, each of which can stand in a list. The items of two lists with a comma
between them are those of the one and then those of the other; and items that are joined with commas are
found again, so that what is read from a list, joined and read once more, is the same. A selection of two
lists is that of settings with their items and the drive that is the default; the lite set stands in for
the tests just if the list has no item, that is, nothing but commas and blanks. -/
theorem lists_come_apart :
    (∀ value items, splitList value = items ↔ Lists value items) ∧
    (∀ value, ∀ item ∈ splitList value, IsItem item) ∧
    (∀ a b, splitList (a ++ "," ++ b) = splitList a ++ splitList b) ∧
    (∀ items, (∀ item ∈ items, IsItem item) → splitList (String.intercalate "," items) = items) ∧
    (∀ value, splitList (String.intercalate "," (splitList value)) = splitList value) ∧
    ∀ tests skipTests,
      Selection.ofStrings tests skipTests = Selection.ofSettings
        { tests := splitList tests, skipTests := splitList skipTests, drive := some defaultDrive } ∧
      (Selection.ofStrings tests skipTests).tests =
        (if splitList tests = [] then liteTests else splitList tests) ∧
      ((Selection.ofStrings tests skipTests).tests = liteTests ↔
        splitList tests = [] ∨ splitList tests = liteTests) ∧
      (splitList tests = [] ↔ ∀ c ∈ tests.toList, c = ',' ∨ isBlank c = true) := by
  refine ⟨fun _ _ => splitList_eq_iff, fun _ _ => isItem_of_mem_splitList, splitList_append,
    fun _ => splitList_intercalate,
    fun _ => splitList_intercalate fun _ => isItem_of_mem_splitList, fun tests skipTests => ?_⟩
  refine ⟨rfl, tests_ofStrings tests skipTests, ?_, splitList_eq_nil_iff⟩
  rw [tests_ofStrings]
  by_cases hnone : splitList tests = []
  · simp [hnone]
  · simp [hnone]

/-- Items may hold blanks, and what means something to a shell. -/
theorem lists_come_apart_spaced :
    IsItem "fs bind" ∧ "fs bind" ∈ splitList " fs bind ,, \t,it's" ∧
    (∀ item ∈ ["fs bind", "it's"], IsItem item) ∧
    splitList (String.intercalate "," ["fs bind", "it's"]) = ["fs bind", "it's"] := by
  have hmem : "fs bind" ∈ splitList " fs bind ,, \t,it's" := by decide +kernel
  have hitems : ∀ item ∈ ["fs bind", "it's"], IsItem item := by decide +kernel
  exact ⟨lists_come_apart.2.1 _ _ hmem, hmem, hitems, lists_come_apart.2.2.2.1 _ hitems⟩

end Testbed.Suite

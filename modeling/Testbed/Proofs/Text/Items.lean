import Testbed.Text.Pieces

/-!
# A text taken apart at a separator

* `items`: what stands between the separators of a text.
* `Parted`: a text that is put together from some texts, with a separator between them.

Results:
* `items_intercalate`: what was joined is taken apart again.
* `parted_iff`: a text is put together in one way only, from what stands between its separators.
* `items_append`: a separator ends an item.
-/

namespace Testbed.Text

variable {sep : Char} {s : String} {names parts : List String}

/-- The texts between the separators of a text. -/
def items (sep : Char) (s : String) : List String := (s.toList.splitOn sep).map String.ofList

/-- **A text put together from parts**: with a separator between them, and none in them. -/
def Parted (sep : Char) (s : String) (parts : List String) : Prop :=
  parts ≠ [] ∧ (∀ part ∈ parts, sep ∉ part.toList) ∧
    String.intercalate (String.singleton sep) parts = s

/-- **What was joined is taken apart again**, if there is something to join and the separator stands
nowhere in it. -/
theorem items_intercalate {sep : Char} {names : List String} (hne : names ≠ [])
    (h : ∀ name ∈ names, sep ∉ name.toList) :
    items sep (String.intercalate (String.singleton sep) names) = names := by
  have hpieces : ([sep].intercalate (names.map String.toList)).splitOn sep = names.map String.toList :=
    List.splitOn_intercalate sep (by simpa using h) (by simpa using hne)
  rw [items, String.toList_intercalate, String.toList_singleton, hpieces, List.map_map]
  simp [Function.comp_def]

theorem items_ne_nil (sep : Char) (s : String) : items sep s ≠ [] := by
  unfold items
  exact mt List.map_eq_nil_iff.mp (List.splitOn_ne_nil sep s.toList)

theorem not_mem_of_mem_items {part : String} (h : part ∈ items sep s) : sep ∉ part.toList := by
  obtain ⟨p, hp, rfl⟩ := List.mem_map.mp h
  rw [String.toList_ofList]
  exact not_mem_of_mem_splitOn hp

/-- Nothing but the separators is lost. -/
theorem intercalate_items (sep : Char) (s : String) :
    String.intercalate (String.singleton sep) (items sep s) = s := by
  have hparts : String.toList ∘ String.ofList = id := funext fun _ => String.toList_ofList
  unfold items
  rw [← String.toList_inj, String.toList_intercalate, String.toList_singleton, List.map_map, hparts,
    List.map_id, List.intercalate_splitOn]

/-- **A text is put together in one way only.** -/
theorem parted_iff : Parted sep s parts ↔ items sep s = parts := by
  constructor
  · rintro ⟨hne, hparts, rfl⟩
    exact items_intercalate hne hparts
  · rintro rfl
    exact ⟨items_ne_nil sep s, fun _ => not_mem_of_mem_items, intercalate_items sep s⟩

/-- A separator ends an item. -/
theorem items_append (sep : Char) (a b : String) :
    items sep (a ++ String.singleton sep ++ b) = items sep a ++ items sep b := by
  unfold items
  rw [String.toList_append, String.toList_append, String.toList_singleton, List.append_assoc,
    List.singleton_append, List.splitOn_append_cons_self, List.map_append]

end Testbed.Text

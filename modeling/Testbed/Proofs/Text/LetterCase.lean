import Mathlib.Tactic.IntervalCases
import Testbed.Text.Blank
import Testbed.Text.LowerCase

/-!
# Texts that differ in the case of ASCII letters

Lower-casing by the whole of the Unicode standard does not see whether ASCII letters were written in
upper or in lower case: such a letter is cased in both forms, and has one lower-case form.

* `toLower_of_capitals`: to see what the tables say of small forms it is enough to look at the capitals.

Results:
* `lower_toLower`: the lower-case form of a text does not depend on the case of its ASCII letters.
* `lowerWords_toLower`: neither do the lower-case forms of its words.
-/

namespace Testbed.Text

variable {c : Char} {cs : List Char}

/-! ## Characters -/

/-- The letters that have another lower-case form among the ASCII characters. -/
def asciiCapitals : List Char := "ABCDEFGHIJKLMNOPQRSTUVWXYZ".toList

theorem toLower_eq_or_mem (c : Char) : c.toLower = c ∨ c ∈ asciiCapitals := by
  by_cases hc : 'A' ≤ c ∧ c ≤ 'Z'
  · right
    have hrange : 65 ≤ c.toNat ∧ c.toNat ≤ 90 := by
      simpa [Char.le_def, UInt32.le_iff_toNat_le] using hc
    obtain ⟨hlow, hhigh⟩ := hrange
    rw [← Char.ofNat_toNat c]
    generalize c.toNat = n at hlow hhigh
    interval_cases n <;> decide
  · left
    unfold Char.toLower
    exact dif_neg hc

/-- What is said of a character in a table is said of its small form: it is enough to look at the
capitals. -/
theorem toLower_of_capitals {α : Type} {f : Char → α}
    (h : asciiCapitals.map (fun c => f c.toLower) = asciiCapitals.map f) (c : Char) :
    f c.toLower = f c := by
  rcases toLower_eq_or_mem c with hc | hc
  · rw [hc]
  · exact List.map_inj_left.mp h c hc

theorem isBlank_toLower (c : Char) : isBlank c.toLower = isBlank c :=
  toLower_of_capitals (by decide +kernel) c

theorem isCaseIgnorable_toLower (c : Char) : isCaseIgnorable c.toLower = isCaseIgnorable c :=
  toLower_of_capitals (by decide +kernel) c

theorem isCased_toLower (c : Char) : isCased c.toLower = isCased c :=
  toLower_of_capitals (by decide +kernel) c

theorem lowerChar_toLower (c : Char) : lowerChar c.toLower = lowerChar c :=
  toLower_of_capitals (by decide +kernel) c

theorem toLower_eq_sigma (c : Char) : c.toLower = 'Σ' ↔ c = 'Σ' := by
  have htest : (c.toLower == 'Σ') = (c == 'Σ') :=
    toLower_of_capitals (f := fun c => c == 'Σ') (by decide +kernel) c
  rw [← beq_iff_eq, htest, beq_iff_eq]

/-! ## Texts -/

theorem cased_toLower (cs : List Char) : cased (cs.map Char.toLower) = cased cs := by
  have hdrop : (cs.map Char.toLower).dropWhile isCaseIgnorable =
      (cs.dropWhile isCaseIgnorable).map Char.toLower := by
    rw [List.dropWhile_map]
    congr 2
    exact funext isCaseIgnorable_toLower
  unfold cased
  rw [hdrop]
  cases cs.dropWhile isCaseIgnorable with
  | nil => rfl
  | cons c cs => exact isCased_toLower c

theorem lowerAfter_toLower (before cs : List Char) :
    lowerAfter (before.map Char.toLower) (cs.map Char.toLower) = lowerAfter before cs := by
  induction cs generalizing before with
  | nil => rfl
  | cons c cs ih =>
    have hrest := ih (c :: before)
    rw [List.map_cons] at hrest
    simp only [List.map_cons, lowerAfter, hrest, toLower_eq_sigma, lowerChar_toLower, cased_toLower]

/-- **Lower-casing does not see the case of ASCII letters.** -/
theorem lower_toLower (s : String) : lower s.toLower = lower s := by
  unfold lower String.toLower
  rw [String.toList_map]
  exact congrArg String.ofList (lowerAfter_toLower [] s.toList)

theorem splitOnP_toLower (cs : List Char) :
    (cs.map Char.toLower).splitOnP isBlank = (cs.splitOnP isBlank).map (List.map Char.toLower) := by
  induction cs with
  | nil => rfl
  | cons c cs ih =>
    rw [List.map_cons, List.splitOnP_cons_eq_if_modifyHead, List.splitOnP_cons_eq_if_modifyHead, ih,
      isBlank_toLower]
    cases cs.splitOnP isBlank with
    | nil => split <;> rfl
    | cons p ps => split <;> rfl

theorem words_toLower (cs : List Char) :
    words (cs.map Char.toLower) = (words cs).map (List.map Char.toLower) := by
  unfold words
  rw [splitOnP_toLower, List.filter_map]
  congr 2
  funext p
  cases p <;> rfl

/-- **The words of a text in lower case** do not depend on the case of its ASCII letters. -/
theorem lowerWords_toLower (s : String) :
    (words s.toLower.toList).map (fun w => lower (String.ofList w)) =
      (words s.toList).map fun w => lower (String.ofList w) := by
  unfold String.toLower
  rw [String.toList_map, words_toLower, List.map_map]
  refine List.map_congr_left fun w _ => ?_
  have hword : String.ofList (w.map Char.toLower) = (String.ofList w).toLower := by
    unfold String.toLower
    rw [← String.toList_inj, String.toList_map, String.toList_ofList, String.toList_ofList]
  simp only [Function.comp_apply, hword, lower_toLower]

end Testbed.Text

import Testbed.Text.Blank

/-!
# Words

How `words` treats a text that is put together from words and blanks. Everything about words follows
from `words_append_cons`: a blank ends a word.
-/

namespace Testbed.Text

variable {c : Char} {cs ds g w : List Char}

theorem isBlank_of_isGap (h : isGap c = true) : isBlank c = true := by
  simp only [isGap, Bool.or_eq_true, beq_iff_eq] at h
  rcases h with rfl | rfl <;> decide

theorem isBlank_of_forall_isGap (h : ∀ c ∈ cs, isGap c = true) : ∀ c ∈ cs, isBlank c = true :=
  fun c hc => isBlank_of_isGap (h c hc)

/-- An ASCII digit is no blank. -/
theorem isBlank_of_isDigit (h : c.isDigit = true) : isBlank c = false := by
  have hrange : 48 ≤ c.toNat ∧ c.toNat ≤ 57 := by
    simpa [Char.isDigit, UInt32.le_iff_toNat_le] using h
  unfold isBlank
  simp only [Bool.or_eq_false_iff, Bool.and_eq_false_iff, decide_eq_false_iff_not, beq_eq_false_iff_ne]
  omega

/-- A blank ends a word. -/
theorem words_append_cons (hc : isBlank c = true) (cs ds : List Char) :
    words (cs ++ c :: ds) = words cs ++ words ds := by
  rw [words, List.splitOnP_append_cons _ _ hc, List.filter_append, words, words]

theorem words_blanks_append (h : ∀ c ∈ g, isBlank c = true) : words (g ++ cs) = words cs := by
  induction g with
  | nil => rfl
  | cons c g ih =>
    obtain ⟨hc, hg⟩ := List.forall_mem_cons.mp h
    have hfirst := words_append_cons hc [] (g ++ cs)
    rw [List.nil_append] at hfirst
    rw [List.cons_append, hfirst, ih hg]
    rfl

/-- A text of blanks has no words. -/
theorem words_of_blanks (h : ∀ c ∈ g, isBlank c = true) : words g = [] := by
  have hall : words (g ++ []) = words [] := words_blanks_append h
  rwa [List.append_nil] at hall

theorem words_append_blanks (h : ∀ c ∈ g, isBlank c = true) : words (cs ++ g) = words cs := by
  cases g with
  | nil => rw [List.append_nil]
  | cons c g =>
    obtain ⟨hc, hg⟩ := List.forall_mem_cons.mp h
    rw [words_append_cons hc, words_of_blanks hg, List.append_nil]

/-- A text without blanks is one word. -/
theorem words_of_word (hne : w ≠ []) (hw : ∀ c ∈ w, isBlank c = false) : words w = [w] := by
  unfold words
  rw [List.splitOnP_eq_singleton hw]
  simp [hne]

/-- Blanks part a word from what follows. -/
theorem words_word_append (hne : w ≠ []) (hw : ∀ c ∈ w, isBlank c = false) (hg : g ≠ [])
    (h : ∀ c ∈ g, isBlank c = true) : words (w ++ (g ++ cs)) = w :: words cs := by
  obtain ⟨c, g, rfl⟩ := List.exists_cons_of_ne_nil hg
  obtain ⟨hc, hg⟩ := List.forall_mem_cons.mp h
  rw [List.cons_append, words_append_cons hc, words_of_word hne hw, words_blanks_append hg]
  rfl

/-- A text that starts with characters other than blanks has a word that starts with them. -/
theorem words_append_of_word (hne : w ≠ []) (hw : ∀ c ∈ w, isBlank c = false) (cs : List Char) :
    ∃ more ws, words (w ++ cs) = (w ++ more) :: ws := by
  have hpieces : ∀ w : List Char, (∀ c ∈ w, isBlank c = false) →
      ∃ more ps, (w ++ cs).splitOnP isBlank = (w ++ more) :: ps := by
    intro w hw
    induction w with
    | nil =>
      obtain ⟨p, ps, h⟩ := List.exists_cons_of_ne_nil (List.splitOnP_ne_nil isBlank cs)
      exact ⟨p, ps, h⟩
    | cons c w ih =>
      obtain ⟨hc, hw⟩ := List.forall_mem_cons.mp hw
      obtain ⟨more, ps, h⟩ := ih hw
      exact ⟨more, ps, by simp [List.splitOnP_cons_eq_if_modifyHead, hc, h]⟩
  obtain ⟨more, ps, h⟩ := hpieces w hw
  refine ⟨more, ps.filter fun p => !p.isEmpty, ?_⟩
  rw [words, h, List.filter_cons_of_pos (by simp [hne])]

end Testbed.Text

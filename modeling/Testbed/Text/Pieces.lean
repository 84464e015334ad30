/-!
# Parts of a text

Texts are cut as lists of characters. What stands between separators is `List.splitOn`, empty pieces
kept; besides there are

* `cutAt?`: what stands before and after the first separator;
* `occursIn`, `startsWith`: a text inside, or at the head of, another;
* `dropRight`: a text without its last characters of a kind.

`exists_mem_splitOnP_iff` says that the pieces between separators hold all characters but those.
-/

namespace Testbed.Text

/-- What stands before and after the first `sep`, if there is one. -/
def cutAt? (sep : Char) : List Char → Option (List Char × List Char)
  | [] => none
  | c :: cs =>
    if c = sep then some ([], cs)
    else (cutAt? sep cs).map fun (before, after) => (c :: before, after)

/-- Whether `pattern` stands somewhere in the text. -/
def occursIn (pattern : List Char) : List Char → Bool
  | [] => pattern.isEmpty
  | c :: cs => pattern.isPrefixOf (c :: cs) || occursIn pattern cs

/-- Whether `pattern` stands somewhere in `s`. -/
def contains (s pattern : String) : Bool := occursIn pattern.toList s.toList

/-- Whether `s` starts with `head`. -/
def startsWith (s head : String) : Bool := head.toList.isPrefixOf s.toList

/-- A text without the characters of a kind that it ends with. -/
def dropRight (p : Char → Bool) (cs : List Char) : List Char := (cs.reverse.dropWhile p).reverse

/-! ## Laws -/

/-- A pattern occurs in a text just if it is a part of it. -/
theorem occursIn_iff {pattern cs : List Char} : occursIn pattern cs = true ↔ pattern <:+: cs := by
  induction cs with
  | nil => rw [occursIn, List.isEmpty_iff, List.infix_nil]
  | cons c cs ih => rw [occursIn, Bool.or_eq_true, List.isPrefixOf_iff_prefix, ih, List.infix_cons_iff]

/-- Of the characters of a text, those that are no separators are in the pieces. -/
theorem exists_mem_splitOnP_iff {sep : Char → Bool} {cs : List Char} {c : Char} :
    (∃ p ∈ cs.splitOnP sep, c ∈ p) ↔ c ∈ cs ∧ sep c = false := by
  induction cs with
  | nil => simp
  | cons d cs ih =>
    rw [List.splitOnP_cons_eq_if_modifyHead, List.mem_cons]
    by_cases hd : sep d = true
    · rw [if_pos hd]
      have hne : sep c = false → c ≠ d := by
        rintro hc rfl
        rw [hd] at hc
        cases hc
      simp only [List.mem_cons, exists_eq_or_imp, List.not_mem_nil, false_or, ih]
      exact ⟨fun h => ⟨.inr h.1, h.2⟩, fun h => ⟨h.1.resolve_left (hne h.2), h.2⟩⟩
    · rw [if_neg hd]
      obtain ⟨p, ps, hps⟩ := List.exists_cons_of_ne_nil (List.splitOnP_ne_nil sep cs)
      rw [hps] at ih ⊢
      simp only [List.modifyHead_cons, List.mem_cons, exists_eq_or_imp] at ih ⊢
      rw [or_assoc, ih]
      constructor
      · rintro (rfl | h)
        · exact ⟨.inl rfl, by simpa using hd⟩
        · exact ⟨.inr h.1, h.2⟩
      · rintro ⟨rfl | h, hc⟩
        · exact .inl rfl
        · exact .inr ⟨h, hc⟩

/-- No piece holds a separator. -/
theorem not_of_mem_splitOnP {sep : Char → Bool} {cs p : List Char} (h : p ∈ cs.splitOnP sep) :
    ∀ c ∈ p, sep c = false :=
  fun _ hc => (exists_mem_splitOnP_iff.mp ⟨p, h, hc⟩).2

theorem exists_mem_splitOn_iff {sep c : Char} {cs : List Char} :
    (∃ p ∈ cs.splitOn sep, c ∈ p) ↔ c ∈ cs ∧ c ≠ sep := by
  rw [List.splitOn_eq_splitOnP, exists_mem_splitOnP_iff, beq_eq_false_iff_ne]

theorem not_mem_of_mem_splitOn {sep : Char} {cs p : List Char} (h : p ∈ cs.splitOn sep) : sep ∉ p :=
  fun hmem => (exists_mem_splitOn_iff.mp ⟨p, h, hmem⟩).2 rfl

end Testbed.Text

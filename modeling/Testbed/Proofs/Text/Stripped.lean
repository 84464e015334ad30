import Testbed.Text.Blank

/-!
# What is left of a text between its ends

Trimming a text, and taking quotes off it, cut characters of one kind off both of its ends.

* `Stripped`: what is left of a text when that is done.

Results:
* `stripped_iff`: it is what is left of the text from the left and then from the right.
* `Stripped.within`, `trim_within`: more characters at the two ends make no difference.
* `exists_stripped_iff`: there is one way to take the blanks from the ends of a text.
* `trim_of_word`: a text without blanks is left as it is.
* `cutAt?_eq_some_iff`: a text is cut at the first separator.
-/

namespace Testbed.Text

variable {kind : Char → Bool} {cs core left right before after : List Char} {sep : Char}

/-- **What is left of a text between characters of a kind**: it stands between such characters, and
neither begins nor ends with one. -/
def Stripped (kind : Char → Bool) (cs core : List Char) : Prop :=
  (∃ left right, cs = left ++ (core ++ right) ∧ ∀ c ∈ left ++ right, kind c = true) ∧
    ∀ c, core.head? = some c ∨ core.getLast? = some c → kind c = false

theorem dropWhile_of_head (h : ∀ c, cs.head? = some c → kind c = false) : cs.dropWhile kind = cs := by
  cases cs with
  | nil => rfl
  | cons c cs => exact List.dropWhile_cons_of_neg (by simp [h c rfl])

theorem head_dropWhile {c : Char} (h : (cs.dropWhile kind).head? = some c) : kind c = false := by
  have hhead := List.head?_dropWhile_not kind cs
  rwa [h] at hhead

/-- What is dropped at the end of a text is of the kind that is dropped. -/
theorem exists_dropRight_append (kind : Char → Bool) (cs : List Char) :
    ∃ dropped, cs = dropRight kind cs ++ dropped ∧ ∀ c ∈ dropped, kind c = true := by
  refine ⟨(cs.reverse.takeWhile kind).reverse, ?_, fun c hc => ?_⟩
  · rw [dropRight, ← List.reverse_append, List.takeWhile_append_dropWhile, List.reverse_reverse]
  · exact List.all_eq_true.mp List.all_takeWhile c (List.mem_reverse.mp hc)

theorem dropRight_append (h : ∀ c ∈ right, kind c = true) :
    dropRight kind (cs ++ right) = dropRight kind cs := by
  rw [dropRight, List.reverse_append,
    List.dropWhile_append_of_pos fun c hc => h c (List.mem_reverse.mp hc), dropRight]

/-- **What is left is found from the left and then from the right.** -/
theorem stripped_iff : Stripped kind cs core ↔ dropRight kind (cs.dropWhile kind) = core := by
  constructor
  · rintro ⟨⟨left, right, rfl, hends⟩, hcore⟩
    obtain ⟨hleft, hright⟩ := List.forall_mem_append.mp hends
    rw [List.dropWhile_append_of_pos hleft]
    cases core with
    | nil =>
      rw [List.nil_append, ← List.append_nil right, List.dropWhile_append_of_pos hright]
      rfl
    | cons c core =>
      have hstart : ∀ d, (c :: core ++ right).head? = some d → kind d = false :=
        fun d hd => hcore d (.inl hd)
      have hend : ∀ d, (c :: core).reverse.head? = some d → kind d = false := by
        intro d hd
        rw [List.head?_reverse] at hd
        exact hcore d (.inr hd)
      rw [dropWhile_of_head hstart, dropRight_append hright, dropRight, dropWhile_of_head hend,
        List.reverse_reverse]
  · rintro rfl
    obtain ⟨dropped, hcut, hdropped⟩ := exists_dropRight_append kind (cs.dropWhile kind)
    refine ⟨⟨cs.takeWhile kind, dropped, ?_, ?_⟩, ?_⟩
    · rw [← hcut, List.takeWhile_append_dropWhile]
    · exact List.forall_mem_append.mpr ⟨fun c hc => List.all_eq_true.mp List.all_takeWhile c hc, hdropped⟩
    · rintro c (hc | hc)
      · have hstart : (cs.dropWhile kind).head? = some c := by
          rw [hcut, List.head?_append, hc, Option.some_or]
        exact head_dropWhile hstart
      · rw [dropRight, List.getLast?_reverse] at hc
        exact head_dropWhile hc

/-- A text that neither begins nor ends with a character of the kind is all that is left. -/
theorem stripped_self_iff : Stripped kind cs cs ↔
    ∀ c, cs.head? = some c ∨ cs.getLast? = some c → kind c = false :=
  ⟨And.right, fun h => ⟨⟨[], [], by simp, by simp⟩, h⟩⟩

theorem Stripped.self (h : Stripped kind cs core) : Stripped kind core core := stripped_self_iff.mpr h.2

/-- What is left of a text is in the text. -/
theorem Stripped.subset (h : Stripped kind cs core) : core ⊆ cs := by
  obtain ⟨⟨left, right, rfl, -⟩, -⟩ := h
  intro c hc
  exact List.mem_append_right left (List.mem_append_left right hc)

theorem stripped_of_not_mem {c : Char} (h : c ∉ cs) : Stripped (· == c) cs cs := by
  refine stripped_self_iff.mpr fun d hd => beq_eq_false_iff_ne.mpr ?_
  rintro rfl
  rcases hd with hd | hd
  · exact h (List.mem_of_head? hd)
  · exact h (List.mem_of_getLast? hd)

/-- Nothing is left of a text that has no other characters. -/
theorem stripped_nil_iff : Stripped kind cs [] ↔ ∀ c ∈ cs, kind c = true := by
  constructor
  · rintro ⟨⟨left, right, rfl, hends⟩, -⟩
    rwa [List.nil_append]
  · intro h
    exact ⟨⟨cs, [], by simp, by simpa using h⟩, by simp⟩

/-- More characters of the kind at the two ends make no difference. -/
theorem Stripped.within (h : Stripped kind cs core) (hleft : ∀ c ∈ left, kind c = true)
    (hright : ∀ c ∈ right, kind c = true) : Stripped kind (left ++ (cs ++ right)) core := by
  obtain ⟨⟨l, r, rfl, hends⟩, hcore⟩ := h
  refine ⟨⟨left ++ l, r ++ right, by simp only [List.append_assoc], ?_⟩, hcore⟩
  simp only [List.forall_mem_append] at hends ⊢
  exact ⟨⟨hleft, hends.1⟩, hends.2, hright⟩

/-- A text that does not begin with a character of the kind keeps its first one. -/
theorem Stripped.head {c : Char} (h : Stripped kind (c :: cs) core) (hc : kind c = false) :
    core.head? = some c := by
  obtain ⟨⟨left, right, hcs, hends⟩, -⟩ := h
  have hfirst : c ∉ left ++ right := fun hmem => by
    rw [hends c hmem] at hc
    cases hc
  cases left with
  | cons d left =>
    rw [List.cons_append] at hcs
    obtain ⟨rfl, -⟩ := List.cons.inj hcs
    exact absurd (List.mem_append_left _ List.mem_cons_self) hfirst
  | nil =>
    cases core with
    | nil =>
      rw [List.nil_append, List.nil_append] at hcs
      subst hcs
      exact absurd (List.mem_append_right _ List.mem_cons_self) hfirst
    | cons d core =>
      rw [List.nil_append, List.cons_append] at hcs
      rw [(List.cons.inj hcs).1]
      rfl

/-- Around a character of another kind, the text is left from the one end and from the other. -/
theorem stripped_append_cons {c : Char} (hc : kind c = false) (before after : List Char) :
    Stripped kind (before ++ c :: after) (before.dropWhile kind ++ c :: dropRight kind after) := by
  obtain ⟨dropped, hcut, hdropped⟩ := exists_dropRight_append kind after
  refine ⟨⟨before.takeWhile kind, dropped, ?_, ?_⟩, ?_⟩
  · rw [List.append_assoc, ← List.append_assoc, List.takeWhile_append_dropWhile, List.cons_append, ← hcut]
  · exact List.forall_mem_append.mpr ⟨fun d hd => List.all_eq_true.mp List.all_takeWhile d hd, hdropped⟩
  · rintro d (hd | hd)
    · rw [List.head?_append] at hd
      cases hbefore : (before.dropWhile kind).head? with
      | none =>
        rw [hbefore] at hd
        cases hd
        exact hc
      | some e =>
        rw [hbefore] at hd
        cases hd
        exact head_dropWhile hbefore
    · rw [List.getLast?_append, List.getLast?_cons] at hd
      cases hafter : (dropRight kind after).getLast? with
      | none =>
        rw [hafter] at hd
        cases hd
        exact hc
      | some e =>
        rw [hafter] at hd
        cases hd
        rw [dropRight, List.getLast?_reverse] at hafter
        exact head_dropWhile hafter

/-! ## Trimming -/

theorem stripped_trim (cs : List Char) : Stripped isBlank cs (trim cs) := stripped_iff.mpr rfl

theorem trim_of_stripped (h : Stripped isBlank cs core) : trim cs = core := stripped_iff.mp h

/-- What is left without blanks at the ends is one text. -/
theorem exists_stripped_iff {P : List Char → Prop} :
    (∃ core, Stripped isBlank cs core ∧ P core) ↔ P (trim cs) := by
  constructor
  · rintro ⟨core, hstripped, h⟩
    rwa [trim_of_stripped hstripped]
  · exact fun h => ⟨_, stripped_trim cs, h⟩

theorem trim_eq_nil_iff : trim cs = [] ↔ ∀ c ∈ cs, isBlank c = true :=
  stripped_iff.symm.trans stripped_nil_iff

/-- More blanks at the two ends make no difference. -/
theorem trim_within (hleft : ∀ c ∈ left, isBlank c = true) (hright : ∀ c ∈ right, isBlank c = true) :
    trim (left ++ (cs ++ right)) = trim cs :=
  trim_of_stripped ((stripped_trim cs).within hleft hright)

theorem trim_blanks_append (h : ∀ c ∈ left, isBlank c = true) : trim (left ++ cs) = trim cs := by
  have hwithin := @trim_within cs left [] h (by simp)
  rwa [List.append_nil] at hwithin

theorem trim_append_blanks (h : ∀ c ∈ right, isBlank c = true) : trim (cs ++ right) = trim cs :=
  @trim_within cs [] right (by simp) h

/-- A text without blanks is left as it is. -/
theorem trim_of_word (h : ∀ c ∈ cs, isBlank c = false) : trim cs = cs := by
  refine trim_of_stripped (stripped_self_iff.mpr ?_)
  rintro c (hc | hc)
  · exact h c (List.mem_of_head? hc)
  · exact h c (List.mem_of_getLast? hc)

/-- A trimmed text does not start with a blank. -/
theorem isBlank_head_of_trim_eq {c : Char} (h : trim (c :: cs) = c :: cs) : isBlank c = false :=
  (stripped_iff.mpr h).2 c (.inl rfl)

/-! ## Cutting -/

/-- **A text is cut at the first separator.** -/
theorem cutAt?_eq_some_iff :
    cutAt? sep cs = some (before, after) ↔ cs = before ++ sep :: after ∧ sep ∉ before := by
  induction cs generalizing before with
  | nil => simp [cutAt?]
  | cons c cs ih =>
    unfold cutAt?
    by_cases hc : c = sep
    · subst hc
      cases before with
      | nil => simp
      | cons d before => simp +contextual
    · rw [if_neg hc]
      cases before with
      | nil => simp [hc]
      | cons d before => simp [ih]; grind

end Testbed.Text

import Testbed.Text.Numeral

/-!
# What a numeral denotes

`Denotes` relates a signed numeral to its value, and `Counts` an unsigned one, without a bound. A reader
of numbers reads just the numerals whose value fits (`readSigned?_eq_some_iff`, `read?_eq_some_iff`), and
the decimal text of a number denotes that number (`denotes_toString`, `counts_repr`).
-/

namespace Testbed.Text.Numeral

/-- A text of one or more ASCII digits. -/
def IsDigits (cs : List Char) : Prop := cs ≠ [] ∧ ∀ c ∈ cs, c.isDigit = true

/-- The number that digits make. -/
def value (cs : List Char) : Nat := Nat.ofDigitChars 10 cs 0

/-- An optional sign and digits, with the number they stand for. -/
inductive Denotes : List Char → Int → Prop
  | digits {ds : List Char} (h : IsDigits ds) : Denotes ds (value ds)
  | plus {ds : List Char} (h : IsDigits ds) : Denotes ('+' :: ds) (value ds)
  | minus {ds : List Char} (h : IsDigits ds) : Denotes ('-' :: ds) (-(value ds : Int))

/-- An optional plus sign and digits, with the number they stand for. -/
inductive Counts : List Char → Nat → Prop
  | digits {ds : List Char} (h : IsDigits ds) : Counts ds (value ds)
  | plus {ds : List Char} (h : IsDigits ds) : Counts ('+' :: ds) (value ds)

variable {cs : List Char} {n : Nat} {v : Int}

theorem foldlM_digit? (cs : List Char) (start : Nat) :
    cs.foldlM (fun v c => (digit? c).map (v * 10 + ·)) start =
      if cs.all (·.isDigit) then some (Nat.ofDigitChars 10 cs start) else none := by
  induction cs generalizing start with
  | nil => simp [pure]
  | cons c cs ih =>
    rw [List.foldlM_cons, digit?]
    by_cases hc : c.isDigit = true
    · simp only [hc, ↓reduceIte, Option.map_some, Option.bind_eq_bind, Option.bind_some, ih,
        List.all_cons, Bool.true_and, Nat.ofDigitChars_cons, Nat.mul_comm start 10]
    · simp [hc]

theorem digits?_eq_some_iff : digits? cs = some n ↔ IsDigits cs ∧ n = value cs := by
  cases cs with
  | nil => simp [digits?, IsDigits]
  | cons c cs =>
    rw [digits?, foldlM_digit?, IsDigits, value, ← List.all_eq_true]
    · by_cases h : (c :: cs).all (·.isDigit) = true
      · rw [if_pos h]
        constructor
        · exact fun hn => ⟨⟨List.cons_ne_nil c cs, h⟩, (Option.some.inj hn).symm⟩
        · exact fun hn => congrArg some hn.2.symm
      · rw [if_neg h]
        exact ⟨fun hn => absurd hn (Option.some_ne_none n).symm, fun hn => absurd hn.1.2 h⟩
    · exact List.cons_ne_nil c cs

theorem not_mem_of_isDigits {c : Char} (h : IsDigits cs) (hc : c.isDigit = false) : c ∉ cs := by
  intro hmem
  rw [h.2 c hmem] at hc
  exact Bool.noConfusion hc

theorem not_isDigits_cons {d : Char} (hd : d.isDigit = false) : ¬ IsDigits (d :: cs) :=
  fun h => not_mem_of_isDigits h hd List.mem_cons_self

theorem map_digits?_eq_some_iff {f : Nat → Int} :
    (digits? cs).map f = some v ↔ IsDigits cs ∧ v = f (value cs) := by
  rw [Option.map_eq_some_iff]
  constructor
  · rintro ⟨n, hn, rfl⟩
    obtain ⟨hd, rfl⟩ := digits?_eq_some_iff.mp hn
    exact ⟨hd, rfl⟩
  · rintro ⟨hd, rfl⟩
    exact ⟨value cs, digits?_eq_some_iff.mpr ⟨hd, rfl⟩, rfl⟩

theorem signed?_eq_some_iff : signed? cs = some v ↔ Denotes cs v := by
  constructor
  · intro h
    unfold signed? at h
    split at h
    · obtain ⟨hd, rfl⟩ := map_digits?_eq_some_iff.mp h
      exact .minus hd
    · obtain ⟨hd, rfl⟩ := map_digits?_eq_some_iff.mp h
      exact .plus hd
    · obtain ⟨hd, rfl⟩ := map_digits?_eq_some_iff.mp h
      exact .digits hd
  · intro h
    cases h with
    | minus hd => exact map_digits?_eq_some_iff.mpr ⟨hd, rfl⟩
    | plus hd => exact map_digits?_eq_some_iff.mpr ⟨hd, rfl⟩
    | digits hd =>
      unfold signed?
      split
      · exact absurd hd (not_isDigits_cons (by decide))
      · exact absurd hd (not_isDigits_cons (by decide))
      · exact map_digits?_eq_some_iff.mpr ⟨hd, rfl⟩

/-- **A signed reader reads just the numerals whose value fits.** -/
theorem readSigned?_eq_some_iff {bits : Nat} : readSigned? bits cs = some v ↔
    Denotes cs v ∧ -(bound (bits - 1) : Int) ≤ v ∧ v < bound (bits - 1) := by
  rw [readSigned?, Option.filter_eq_some_iff, signed?_eq_some_iff]
  simp

theorem readInt32?_eq_some_iff {v : Int32} : readInt32? cs = some v ↔ Denotes cs v.toInt := by
  rw [readInt32?, Option.map_eq_some_iff]
  constructor
  · rintro ⟨w, hw, rfl⟩
    obtain ⟨hd, hlow, hhigh⟩ := readSigned?_eq_some_iff.mp hw
    rwa [Int32.toInt_ofInt_of_le hlow hhigh]
  · intro h
    refine ⟨v.toInt, readSigned?_eq_some_iff.mpr ⟨h, ?_, ?_⟩, Int32.ofInt_toInt v⟩
    · exact Int32.le_toInt v
    · exact Int32.toInt_lt v

/-! ## Unsigned numerals -/

/-- A numeral stands for one number. -/
theorem Counts.unique {m : Nat} (h : Counts cs n) (h' : Counts cs m) : n = m := by
  cases h with
  | digits hd =>
    cases h' with
    | digits => rfl
    | plus => exact absurd hd (not_isDigits_cons (by decide))
  | plus =>
    cases h' with
    | digits hd => exact absurd hd (not_isDigits_cons (by decide))
    | plus => rfl

/-- Digits behind a number make no smaller one. -/
theorem le_ofDigitChars (cs : List Char) (start : Nat) : start ≤ Nat.ofDigitChars 10 cs start := by
  induction cs generalizing start with
  | nil => exact Nat.le_refl start
  | cons c cs ih =>
    rw [Nat.ofDigitChars_cons]
    have hmore := ih (10 * start + (c.toNat - '0'.toNat))
    omega

/-- Digits are appended to a number just if what they make of it stays below the limit. Then so did
every number on the way. -/
theorem extend_eq_ok_iff {limit start : Nat} (hstart : start < limit) : extend limit start cs = .ok n ↔
    (∀ c ∈ cs, c.isDigit = true) ∧ n = Nat.ofDigitChars 10 cs start ∧ n < limit := by
  induction cs generalizing start with
  | nil =>
    constructor
    · rintro ⟨⟩
      exact ⟨nofun, rfl, hstart⟩
    · rintro ⟨-, rfl, -⟩
      rfl
  | cons c cs ih =>
    unfold extend digit?
    rw [List.forall_mem_cons, Nat.ofDigitChars_cons, Nat.mul_comm 10 start]
    by_cases hc : c.isDigit = true
    · simp only [hc, if_true, true_and]
      by_cases hfits : start * 10 + (c.toNat - '0'.toNat) < limit
      · rw [if_pos hfits, ih hfits]
      · rw [if_neg hfits]
        refine iff_of_false nofun ?_
        rintro ⟨-, rfl, hn⟩
        have hmore := le_ofDigitChars cs (start * 10 + (c.toNat - '0'.toNat))
        omega
    · simp only [hc]
      exact iff_of_false nofun fun h => absurd h.1.1 (by simp)

/-- **An unsigned reader reads just the numerals whose value fits.** -/
theorem read?_eq_some_iff {limit : Nat} (hlimit : 0 < limit) :
    read? limit cs = some n ↔ Counts cs n ∧ n < limit := by
  have hdigits : ∀ {ds : List Char}, ds ≠ [] →
      ((extend limit 0 ds).toOption = some n ↔ (IsDigits ds ∧ n = value ds) ∧ n < limit) := by
    intro ds hne
    have hok : (extend limit 0 ds).toOption = some n ↔ extend limit 0 ds = .ok n := by
      cases extend limit 0 ds <;> simp [Except.toOption]
    rw [hok, extend_eq_ok_iff hlimit, IsDigits, value]
    constructor
    · rintro ⟨hall, hn, hlt⟩
      exact ⟨⟨⟨hne, hall⟩, hn⟩, hlt⟩
    · rintro ⟨⟨⟨-, hall⟩, hn⟩, hlt⟩
      exact ⟨hall, hn, hlt⟩
  unfold read? read
  split
  · refine iff_of_false nofun ?_
    rintro ⟨⟨h, -⟩, -⟩
    exact h rfl
  · refine iff_of_false nofun ?_
    rintro ⟨h | h, -⟩
    · exact absurd h (not_isDigits_cons (by decide))
    · exact h.1 rfl
  · rename_i ds hne
    rw [hdigits (fun hnil => hne (by rw [hnil]))]
    refine and_congr_left' ⟨fun ⟨hd, hn⟩ => hn ▸ .plus hd, ?_⟩
    rintro (h | h)
    · exact absurd h (not_isDigits_cons (by decide))
    · exact ⟨h, rfl⟩
  · rename_i hnil _ hplus
    rw [hdigits hnil]
    refine and_congr_left' ⟨fun ⟨hd, hn⟩ => hn ▸ .digits hd, ?_⟩
    rintro (h | h)
    · exact ⟨h, rfl⟩
    · exact absurd rfl (hplus _)

/-- The decimal digits of a number are digits, and make the number. -/
theorem isDigits_repr (n : Nat) : IsDigits n.repr.toList ∧ value n.repr.toList = n := by
  rw [Nat.toList_repr, value, Nat.ofDigitChars_ten_toDigits]
  exact ⟨⟨Nat.toDigits_ne_nil,
    fun c hc => Nat.isDigit_of_mem_toDigits (by decide) (by decide) hc⟩, rfl⟩

theorem counts_repr (n : Nat) : Counts n.repr.toList n := by
  obtain ⟨hd, hv⟩ := isDigits_repr n
  have hcounts := Counts.digits hd
  rwa [hv] at hcounts

/-- The decimal text of a number is a minus sign, if it is negative, and digits. -/
theorem toList_toString (v : Int) :
    (toString v).toList = (if v < 0 then ['-'] else []) ++ v.natAbs.repr.toList := by
  rw [Int.toString_eq_repr, Int.repr_eq_if]
  by_cases h : v < 0
  · have habs : (-v).toNat = v.natAbs := by omega
    rw [if_neg (by omega), if_pos h, String.toList_append, habs]
    rfl
  · have habs : v.toNat = v.natAbs := by omega
    rw [if_pos (by omega), if_neg h, habs]
    rfl

/-- **Decimal texts read back**: the decimal text of a number denotes it. -/
theorem denotes_toString (v : Int) : Denotes (toString v).toList v := by
  obtain ⟨hd, hv⟩ := isDigits_repr v.natAbs
  rw [toList_toString]
  by_cases h : v < 0
  · have habs : -(v.natAbs : Int) = v := by omega
    have hminus := Denotes.minus hd
    rw [hv, habs] at hminus
    rwa [if_pos h]
  · have habs : (v.natAbs : Int) = v := by omega
    have hdigits := Denotes.digits hd
    rw [hv, habs] at hdigits
    rwa [if_neg h]

end Testbed.Text.Numeral

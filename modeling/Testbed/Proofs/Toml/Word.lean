import Testbed.Proofs.Text.Numeral
import Testbed.Toml.Printer
import Testbed.Toml.Value

/-!
# Numbers read back

The decimal text of a number is a word of digits without a zero in front of others. Such a word
could also be tried as a truth value, a date, a time or a floating-point number, and all of these
come before the integers; here it is shown to be none of them.

Headline: **`word?_repr`**: the decimal text of a number below the bound stands for that number.
-/

namespace Testbed.Toml

open Text.Numeral (IsDigits not_mem_of_isDigits)

variable {c : Char} {cs ds : List Char}

theorem cutAt?_eq_none (h : c ∉ cs) : Text.cutAt? c cs = none := by
  induction cs with
  | nil => rfl
  | cons d cs ih =>
    obtain ⟨hd, hcs⟩ := not_or.mp (mt List.mem_cons.mpr h)
    rw [Text.cutAt?, if_neg (Ne.symm hd), ih hcs, Option.map_none]

/-! ## Neither a moment nor a floating-point number -/

theorem Moment.isMoment_of_isDigits (h : IsDigits ds) : isMoment ds = false := by
  have hminutes : afterMinutes? ds = none := by
    unfold afterMinutes?
    split
    · exact absurd (by simp) (not_mem_of_isDigits (c := ':') h (by decide))
    · rfl
  have hdate : afterDate? ds = none := by
    unfold afterDate?
    split
    · exact absurd (by simp) (not_mem_of_isDigits (c := '-') h (by decide))
    · rfl
  have htime : afterTime? ds = none := by rw [afterTime?, hminutes]; rfl
  rw [isMoment, isTime, htime, hdate]
  rfl

namespace Number

theorem digit?_ten (c : Char) : digit? 10 c = Text.Numeral.digit? c := by
  have hrange : '0' ≤ c ∧ c ≤ '9' ↔ c.isDigit = true := by simp [Char.isDigit, Char.le_def]
  rw [digit?, Text.Numeral.digit?]
  by_cases hc : c.isDigit = true
  · have hlow : 48 ≤ c.toNat := (hrange.mpr hc).1
    have hhigh : c.toNat ≤ 57 := (hrange.mpr hc).2
    have hten : c.toNat - '0'.toNat < 10 := by
      change c.toNat - 48 < 10
      omega
    simp only [hrange, hc, if_true, Option.filter_some, hten, decide_true]
  · simp only [hrange, hc, Bool.false_eq_true, if_false]
    split
    · simp
    · split <;> simp

theorem value?_ten (h : ∀ c ∈ ds, c.isDigit = true) :
    value? 10 ds = some (Text.Numeral.value ds) := by
  simp only [value?, digit?_ten, Text.Numeral.foldlM_digit?, if_pos (List.all_eq_true.mpr h)]
  rfl

theorem splitSign_of_isDigits (h : IsDigits ds) : splitSign ds = (false, ds) := by
  unfold splitSign
  split
  · exact absurd List.mem_cons_self (not_mem_of_isDigits (c := '-') h (by decide))
  · exact absurd List.mem_cons_self (not_mem_of_isDigits (c := '+') h (by decide))
  · rfl

theorem digits?_of_isDigits (h : IsDigits ds) : digits? 10 ds = some ds := by
  have hone : ds.splitOn '_' = [ds] :=
    List.splitOn_eq_singleton (not_mem_of_isDigits h (by decide))
  have hall : ds.all (fun c => (digit? 10 c).isSome) = true := List.all_eq_true.mpr fun c hc => by
    rw [digit?_ten, Text.Numeral.digit?, if_pos (h.2 c hc), Option.isSome_some]
  have hne : ds.isEmpty = false := by simpa using h.1
  simp [digits?, hone, hall, hne]

variable (h : IsDigits ds) (hlead : ds.head? = some '0' → ds = ['0'])

include h hlead

theorem leadDigits?_of_isDigits : leadDigits? ds = some ds := by
  rw [leadDigits?, if_neg, digits?_of_isDigits h]
  intro hzero
  simp only [Bool.and_eq_true, decide_eq_true_eq, bne_iff_ne] at hzero
  exact hzero.2 (hlead hzero.1)

/-- There is neither a point nor an exponent. -/
theorem isFloat_of_isDigits : isFloat ds = false := by
  have hmantissa : ds.takeWhile (fun c => c != 'e' && c != 'E') = ds := by
    rw [← List.append_nil ds, List.takeWhile_append_of_pos]
    · simp
    · intro c hc
      have hlower : c ≠ 'e' := fun e => not_mem_of_isDigits h (by decide) (e ▸ hc)
      have hupper : c ≠ 'E' := fun e => not_mem_of_isDigits h (by decide) (e ▸ hc)
      simp [hlower, hupper]
  have hpoint : Text.cutAt? '.' ds = none := cutAt?_eq_none (not_mem_of_isDigits h (by decide))
  have hscaled : scaled? ds = none := by
    rw [scaled?, hmantissa, significand?, hpoint]
    simp [leadDigits?_of_isDigits h hlead, value?_ten h.2]
  have hinf : ds ≠ ['i', 'n', 'f'] := fun e =>
    not_mem_of_isDigits (c := 'i') h (by decide) (by simp [e])
  have hnan : ds ≠ ['n', 'a', 'n'] := fun e =>
    not_mem_of_isDigits (c := 'n') h (by decide) (by simp [e])
  rw [isFloat, splitSign_of_isDigits h]
  simp [hscaled, hinf, hnan]

theorem integer?_of_isDigits (hbound : Text.Numeral.value ds < Printer.numberBound) :
    integer? ds = some (Text.Numeral.value ds : Int) := by
  have hlimit : -integer?.limit ≤ (Text.Numeral.value ds : Int) ∧
      (Text.Numeral.value ds : Int) < integer?.limit := by
    rw [integer?.limit]
    rw [Printer.numberBound] at hbound
    omega
  unfold integer?
  split
  · exact absurd (by simp) (not_mem_of_isDigits (c := 'x') h (by decide))
  · exact absurd (by simp) (not_mem_of_isDigits (c := 'o') h (by decide))
  · exact absurd (by simp) (not_mem_of_isDigits (c := 'b') h (by decide))
  · simp only [splitSign_of_isDigits h, leadDigits?_of_isDigits h hlead, Option.bind_eq_bind,
      Option.bind_some]
    rw [value?_ten h.2, Option.bind_some, if_neg Bool.false_ne_true, Option.pure_def,
      Option.bind_some, if_pos hlimit]

end Number

/-! ## The decimal text of a number -/

theorem head?_toDigits {n : Nat} (h : 0 < n) : (Nat.toDigits 10 n).head? ≠ some '0' := by
  induction n using Nat.strongRecOn with
  | ind n ih =>
    by_cases hlow : n < 10
    · rw [Nat.toDigits_of_lt_base hlow]
      have hdigit : ∀ d < 10, 0 < d → d.digitChar ≠ '0' := by decide
      simpa using hdigit n hlow h
    · have hhead := ih (n / 10) (by omega) (by omega)
      rw [Nat.toDigits_of_base_le (by decide) (by omega), List.head?_append]
      cases hdigits : (Nat.toDigits 10 (n / 10)).head? with
      | none => exact absurd (List.head?_eq_none_iff.mp hdigits) Nat.toDigits_ne_nil
      | some d => simpa [hdigits] using hhead

theorem eq_zero_of_head?_repr {n : Nat} (h : n.repr.toList.head? = some '0') :
    n.repr.toList = ['0'] := by
  rw [Nat.toList_repr] at h ⊢
  obtain rfl : n = 0 := Nat.eq_zero_of_not_pos fun hpos => head?_toDigits hpos h
  rfl

/-- **Numbers read back**: the decimal text of a number below the bound stands for it. -/
theorem word?_repr {n : Nat} (h : n < Printer.numberBound) :
    word? n.repr.toList = some (.integer n) := by
  obtain ⟨hdigits, hvalue⟩ := Text.Numeral.isDigits_repr n
  have htrue : n.repr.toList ≠ "true".toList := fun e =>
    not_mem_of_isDigits (c := 't') hdigits (by decide) (by simp [e])
  have hfalse : n.repr.toList ≠ "false".toList := fun e =>
    not_mem_of_isDigits (c := 'f') hdigits (by decide) (by simp [e])
  rw [word?, if_neg htrue, if_neg hfalse, Moment.isMoment_of_isDigits hdigits,
    Number.isFloat_of_isDigits hdigits eq_zero_of_head?_repr,
    Number.integer?_of_isDigits hdigits eq_zero_of_head?_repr (by rwa [hvalue]), hvalue]
  rfl

end Testbed.Toml

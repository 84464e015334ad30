import Testbed.Proofs.Toml.Quotation
import Testbed.Proofs.Toml.Word

/-!
# Values read back

Reading a value is decided by its first character: a quote begins a string, a bracket an array, and
anything else that is written begins a word. The steps that reading may take are bounded; those that
a value takes (`Plain.steps`) are no more than the characters of its text.

* `Plain.Fits`, `Plain.text`: which values can be written, and how.
* `run_word`, `run_value_string`, `run_elements_lines`: words, strings, and the elements of arrays.

Headline: **`run_value`**: what is written for a value is read as that value, and nothing behind it
is taken.
-/

namespace Testbed.Toml

open Text (isGap)

variable {c : Char} {cs rest : List Char} {p : Char → Bool}

/-! ## Taking characters -/

namespace Reader

@[simp] theorem run_next? : next?.run cs = some (cs.head?, cs) := rfl

@[simp] theorem run_take : (take c).run (c :: rest) = some ((), rest) := by
  simp [take, StateT.run]

@[simp] theorem run_takeIf : (takeIf c).run (c :: rest) = some (true, rest) := by
  simp [takeIf, StateT.run]

theorem run_takeIf_of_ne (h : cs.head? ≠ some c) : (takeIf c).run cs = some (false, cs) := by
  cases cs with
  | nil => rfl
  | cons d cs => simp_all [takeIf, StateT.run, eq_comm]

theorem run_takeWhile (hcs : ∀ d ∈ cs, p d = true) (hrest : ∀ d ∈ rest.head?, p d = false) :
    (takeWhile p).run (cs ++ rest) = some (cs, rest) := by
  have h : rest.takeWhile p = [] ∧ rest.dropWhile p = rest := by
    cases rest with
    | nil => simp
    | cons d ds => simp [hrest d rfl]
  simp only [takeWhile, StateT.run, List.takeWhile_append_of_pos hcs,
    List.dropWhile_append_of_pos hcs, h, List.append_nil]

theorem run_skipGap (h : ∀ d ∈ cs.head?, isGap d = false) : skipGap.run cs = some ((), cs) := by
  cases cs with
  | nil => rfl
  | cons d ds =>
    change some _ = _
    simp [h d rfl]

theorem run_skipGap_space : skipGap.run (' ' :: cs) = skipGap.run cs := rfl

theorem run_skipLines (h : ∀ d ∈ cs.head?, d ∉ [' ', '\t', '\n', '\r', '#']) :
    skipLines.run cs = some ((), cs) := by
  cases cs with
  | nil => rfl
  | cons d ds =>
    have hd := h d rfl
    change some ((), skipLines.go false (d :: ds)) = _
    rw [skipLines.go]
    · simp_all [isGap]
    · simp_all
    · simp_all

theorem run_skipLines_line : skipLines.run ('\n' :: cs) = skipLines.run cs := by
  change some ((), skipLines.go false ('\n' :: cs)) = some ((), skipLines.go false cs)
  rw [skipLines.go]

theorem run_skipLines_space : skipLines.run (' ' :: cs) = skipLines.run cs := by
  change some ((), skipLines.go false (' ' :: cs)) = some ((), skipLines.go false cs)
  rw [skipLines.go, if_pos (by decide)]
  · simp
  · simp

end Reader

open Reader

/-! ## Words and strings -/

theorem Ends.not_word (h : Ends rest) : ∀ d ∈ rest.head?, isWordChar d = false := by
  cases h <;> simp <;> decide

theorem run_word {item : Item} (hcs : ∀ d ∈ cs, isWordChar d = true) (hitem : word? cs = some item)
    (hrest : Ends rest) : word.run (cs ++ rest) = some (item, rest) := by
  have htake := run_takeWhile hcs hrest.not_word
  cases hrest <;> simp [word, htake, hitem, StateT.run_bind]

theorem run_value_word (depth n : Nat) {item : Item} (hne : cs ≠ [])
    (hcs : ∀ d ∈ cs, isWordChar d = true) (hitem : word? cs = some item) (hrest : Ends rest) :
    (value depth (n + 1)).run (cs ++ rest) = some (item, rest) := by
  have h := run_word hcs hitem hrest
  obtain ⟨c, cs, rfl⟩ := List.exists_cons_of_ne_nil hne
  have hc : ∀ d, isWordChar d = false → c ≠ d := by
    rintro d hd rfl
    exact absurd (hcs c List.mem_cons_self) (by simp [hd])
  have hdouble := hc '"' (by decide)
  have hsingle := hc '\'' (by decide)
  have hbracket := hc '[' (by decide)
  have hbrace := hc '{' (by decide)
  rw [value, StateT.run_bind, run_next?]
  simp only [List.cons_append, List.head?_cons, Option.bind_eq_bind, Option.bind_some]
  split <;> simp_all

theorem head?_string (s : String) (rest : List Char) :
    ((Printer.string s).toList ++ rest).head? = some '"' ∨
      ((Printer.string s).toList ++ rest).head? = some '\'' := by
  rw [Printer.string, String.toList_ofList]
  generalize Printer.Style.choose s.toList = style
  cases style <;> simp [Printer.quotedIn, Printer.Style.quotes]

theorem run_value_string (depth n : Nat) (s : String) (hrest : Ends rest) :
    (value depth (n + 1)).run ((Printer.string s).toList ++ rest) = some (.string s, rest) := by
  have h := Quotation.any_string s hrest
  rw [value]
  rcases head?_string s rest with hs | hs <;> simp [StateT.run_bind, hs, h]

/-! ## Arrays -/

theorem run_value_array (depth n : Nat) :
    (value (depth + 1) (n + 1)).run ('[' :: cs) =
      ((elements depth n).run cs).map fun (items, rest) => (.array items, rest) := by
  rw [value]
  simp [StateT.run_bind]

theorem run_elements_line (depth n : Nat) :
    (elements depth n).run ('\n' :: cs) = (elements depth n).run cs := by
  cases n with
  | zero => rw [elements]; rfl
  | succ n => rw [elements, StateT.run_bind, StateT.run_bind, run_skipLines_line]

theorem run_elements_nil (depth n : Nat) :
    (elements depth (n + 1)).run (']' :: rest) = some ([], rest) := by
  rw [elements, StateT.run_bind, run_skipLines (by simp)]
  simp [StateT.run_bind]

/-- A string that is an element; what comes behind it decides how the array goes on. -/
theorem run_elements_string (depth n : Nat) (s : String) (hrest : Ends rest)
    (hgap : skipLines.run cs = some ((), (Printer.string s).toList ++ rest)) :
    (elements depth (n + 2)).run cs = (do
      skipLines
      if ← takeIf ',' then return .string s :: (← elements depth (n + 1))
      take ']'
      return [.string s] : Reader (List Item)).run rest := by
  have hvalue := run_value_string depth n s hrest
  have hbracket : (takeIf ']').run ((Printer.string s).toList ++ rest) =
      some (false, (Printer.string s).toList ++ rest) :=
    run_takeIf_of_ne (by rcases head?_string s rest with h | h <;> simp [h])
  rw [elements, StateT.run_bind, hgap, Option.bind_eq_bind, Option.bind_some, StateT.run_bind,
    hbracket]
  simp [StateT.run_bind, hvalue]

theorem run_skipLines_string (s : String) : skipLines.run ((Printer.string s).toList ++ rest) =
    some ((), (Printer.string s).toList ++ rest) :=
  run_skipLines (by rcases head?_string s rest with h | h <;> simp [h])

theorem run_elements_one (depth n : Nat) (s : String) :
    (elements depth (n + 2)).run ((Printer.string s).toList ++ ']' :: rest) =
      some ([.string s], rest) := by
  have hlines : skipLines.run (']' :: rest) = some ((), ']' :: rest) := run_skipLines (by simp)
  have hcomma : (takeIf ',').run (']' :: rest) = some (false, ']' :: rest) :=
    run_takeIf_of_ne (by simp)
  rw [run_elements_string depth n s (.bracket rest) (run_skipLines_string s)]
  simp [StateT.run_bind, hlines, hcomma]

/-- The line of an element. -/
def elementLine (s : String) : String := "    " ++ Printer.string s ++ ",\n"

theorem run_elements_cons (depth n : Nat) (s : String) :
    (elements depth (n + 2)).run ((elementLine s).toList ++ rest) =
      ((elements depth (n + 1)).run rest).map fun (items, rest) => (.string s :: items, rest) := by
  have htext : (elementLine s).toList ++ rest =
      ' ' :: ' ' :: ' ' :: ' ' :: ((Printer.string s).toList ++ ',' :: '\n' :: rest) := by
    simp [elementLine]
  have hlines : skipLines.run (',' :: '\n' :: rest) = some ((), ',' :: '\n' :: rest) :=
    run_skipLines (by simp)
  rw [htext, run_elements_string depth n s (.comma ('\n' :: rest))]
  · simp [StateT.run_bind, hlines, run_elements_line]
  · simp only [run_skipLines_space, run_skipLines_string]

/-- Each line takes one step, and so does the closing bracket. -/
theorem run_elements_lines (depth n : Nat) (values : List String) (h : values.length < n) :
    (elements depth n).run (values.flatMap (String.toList ∘ elementLine) ++ ']' :: rest) =
      some (values.map Item.string, rest) := by
  induction values generalizing n with
  | nil =>
    obtain ⟨n, rfl⟩ : ∃ m, n = m + 1 := ⟨n - 1, by simp at h; omega⟩
    exact run_elements_nil depth n
  | cons s values ih =>
    obtain ⟨n, rfl⟩ : ∃ m, n = m + 2 := ⟨n - 2, by simp at h; omega⟩
    rw [List.flatMap_cons, List.append_assoc, Function.comp_apply, run_elements_cons,
      ih (n + 1) (by simp at h; omega)]
    rfl

theorem toList_strings {values : List String} (h : 2 ≤ values.length) :
    (Printer.strings values).toList =
      '[' :: '\n' :: (values.flatMap (String.toList ∘ elementLine) ++ [']']) := by
  unfold Printer.strings
  split
  · simp at h
  · simp at h
  · simp [String.toList_join, List.flatMap_map, elementLine, Function.comp_def]

theorem run_value_strings (depth n : Nat) (values : List String) (h : values.length + 2 ≤ n) :
    (value (depth + 1) n).run ((Printer.strings values).toList ++ rest) =
      some (.array (values.map Item.string), rest) := by
  obtain ⟨n, rfl⟩ : ∃ m, n = m + 2 := ⟨n - 2, by omega⟩
  cases values with
  | nil =>
    change (value (depth + 1) (n + 2)).run ('[' :: ']' :: rest) = _
    rw [run_value_array, run_elements_nil]
    rfl
  | cons s more =>
    cases more with
    | nil =>
      obtain ⟨n, rfl⟩ : ∃ m, n = m + 1 := ⟨n - 1, by simp at h; omega⟩
      have htext : (Printer.strings [s]).toList ++ rest =
          '[' :: ((Printer.string s).toList ++ ']' :: rest) := by simp [Printer.strings]
      rw [htext, run_value_array, run_elements_one]
      rfl
    | cons t more =>
      rw [toList_strings (by simp), List.cons_append, List.cons_append, run_value_array,
        run_elements_line, List.append_assoc, List.singleton_append,
        run_elements_lines _ _ _ (by simp at h ⊢; omega)]
      rfl

/-! ## Values -/

namespace Plain

/-- Whether a value can be written. -/
def Fits : Plain → Prop
  | .number value => value < Printer.numberBound
  | _ => True

/-- The text of a value. -/
def text : Plain → String
  | .string value => Printer.string value
  | .number value => toString value
  | .boolean value => if value then "true" else "false"
  | .strings values => Printer.strings values

theorem value?_of_fits {v : Plain} (h : v.Fits) : Printer.value? v = some v.text := by
  cases v with
  | number n => exact if_pos h
  | _ => rfl

/-- How many steps it takes to read a value. -/
def steps : Plain → Nat
  | .strings values => values.length + 2
  | _ => 1

theorem length_string_pos (s : String) : 0 < (Printer.string s).toList.length := by
  have h := head?_string s []
  rw [List.append_nil] at h
  rcases h with h | h
  · exact List.length_pos_of_mem (List.mem_of_mem_head? h)
  · exact List.length_pos_of_mem (List.mem_of_mem_head? h)

theorem length_le_flatMap_elementLine (values : List String) :
    values.length ≤ (values.flatMap (String.toList ∘ elementLine)).length := by
  induction values with
  | nil => simp
  | cons s values ih =>
    have hline : 0 < (elementLine s).toList.length := by simp [elementLine]
    rw [List.flatMap_cons, List.length_append, List.length_cons, Function.comp_apply]
    omega

theorem steps_le (v : Plain) : v.steps ≤ v.text.toList.length := by
  cases v with
  | string s => exact length_string_pos s
  | number n => exact List.length_pos_iff.mpr (Text.Numeral.isDigits_repr n).1.1
  | boolean b => cases b <;> decide
  | strings values =>
    change values.length + 2 ≤ (Printer.strings values).toList.length
    match values with
    | [] => decide
    | [s] =>
      have h := length_string_pos s
      simp only [Printer.strings, String.toList_append, List.length_append]
      simp
      omega
    | s :: t :: values =>
      have h := length_le_flatMap_elementLine (s :: t :: values)
      rw [toList_strings (by simp)]
      simp only [List.length_cons, List.length_append, List.length_nil] at h ⊢
      omega

/-- No value begins with a gap. -/
theorem isGap_head? (v : Plain) (rest : List Char) :
    ∀ d ∈ (v.text.toList ++ rest).head?, isGap d = false := by
  cases v with
  | string s => rcases head?_string s rest with h | h <;> simp [text, h, isGap]
  | number n =>
    have hdigits := (Text.Numeral.isDigits_repr n).1
    obtain ⟨c, cs, hcs⟩ := List.exists_cons_of_ne_nil hdigits.1
    have hspace : c ≠ ' ' := fun e => Text.Numeral.not_mem_of_isDigits hdigits (c := ' ') rfl (by simp [hcs, e])
    have htab : c ≠ '\t' := fun e => Text.Numeral.not_mem_of_isDigits hdigits (c := '\t') rfl (by simp [hcs, e])
    change ∀ d ∈ (n.repr.toList ++ rest).head?, isGap d = false
    simp [hcs, isGap, hspace, htab]
  | boolean b => cases b <;> simp [text, isGap]
  | strings values =>
    change ∀ d ∈ ((Printer.strings values).toList ++ rest).head?, isGap d = false
    cases values with
    | nil => simp [Printer.strings, isGap]
    | cons s more => cases more <;> simp [Printer.strings, isGap]

end Plain

/-- **Values read back**: as many steps as the text has characters are enough. -/
theorem run_value {v : Plain} (h : v.Fits) (depth n : Nat) (hn : v.text.toList.length ≤ n)
    (hrest : Ends rest) :
    (value (depth + 1) n).run (v.text.toList ++ rest) = some (v.item, rest) := by
  have hsteps : v.steps ≤ n := Nat.le_trans v.steps_le hn
  obtain ⟨n, rfl⟩ : ∃ m, n = m + 1 := ⟨n - 1, by cases v <;> simp [Plain.steps] at hsteps <;> omega⟩
  cases v with
  | string s => exact run_value_string (depth + 1) n s hrest
  | number k =>
    obtain ⟨hne, hdigits⟩ := (Text.Numeral.isDigits_repr k).1
    refine run_value_word (depth + 1) n hne (fun d hd => ?_) (word?_repr h) hrest
    simp [isWordChar, isNameChar, Char.isAlphanum, hdigits d hd]
  | boolean b =>
    cases b
    · exact run_value_word (depth + 1) n (by decide) (List.all_eq_true.mp (by decide)) rfl hrest
    · exact run_value_word (depth + 1) n (by decide) (List.all_eq_true.mp (by decide)) rfl hrest
  | strings values => exact run_value_strings depth (n + 1) values hsteps

end Testbed.Toml

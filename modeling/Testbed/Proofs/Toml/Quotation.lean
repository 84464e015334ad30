import Testbed.Toml.Printer
import Testbed.Toml.Quotation

/-!
# Quoted strings read back

A string is written in the first of several styles that can hold it, with escapes where none can.
Here each style is read back, over the reader of its kind of quotes.

* `Ends`: what stands behind a value in a written document. No quote does, so that the closing
  quotes of a string are where it was ended.
* `basic_escapedText`, `literal_append`: strings on one line.
* `multiBasic_escapedText`, `multiLiteral_append`: strings on several lines. Quotes without an
  escape are the hard part there: up to two may stand before the closing ones, and are read together
  with them.

Headline: **`any_string`**: every string is read as what it is.
-/

namespace Testbed.Toml

/-- What stands behind a value in a written document: a comma, a closing bracket or a line end. -/
inductive Ends : List Char → Prop
  | comma (rest : List Char) : Ends (',' :: rest)
  | bracket (rest : List Char) : Ends (']' :: rest)
  | line (rest : List Char) : Ends ('\n' :: rest)

namespace Quotation

open Printer (Style isControl hexadecimal escaped escapedText quotedIn hasRun)

variable {c : Char} {cs rest : List Char}

/-! ## Characters and escapes -/

theorem isTextChar_of_not_control (h : isControl c = false) (hline : c ≠ '\n') :
    isTextChar c = true := by
  simp only [isControl, isTextChar, Bool.and_eq_false_iff, bne_eq_false_iff_eq,
    Bool.or_eq_false_iff, decide_eq_false_iff_not, beq_eq_false_iff_ne, Bool.or_eq_true, beq_iff_eq,
    Bool.and_eq_true, decide_eq_true_eq, bne_iff_ne] at h ⊢
  rcases h with (rfl | rfl) | ⟨hlow, hhigh⟩
  · exact .inl rfl
  · exact absurd rfl hline
  · exact .inr ⟨by omega, hhigh⟩

theorem not_lineEnd_of_isTextChar (h : isTextChar c = true) : c ≠ '\n' ∧ c ≠ '\r' := by
  constructor
  · rintro rfl
    exact absurd h (by decide)
  · rintro rfl
    exact absurd h (by decide)

/-- The code points of ASCII characters have four hexadecimal digits, which give them back. -/
theorem codePoint?_hexadecimal : ∀ n < 128, (hexadecimal n).length = 4 ∧
    codePoint? (hexadecimal n) = some (Char.ofNat n) := by
  decide +kernel

theorem hexadecimal_control (h : isControl c = true) : ∃ h₁ h₂ h₃ h₄,
    hexadecimal c.toNat = [h₁, h₂, h₃, h₄] ∧ codePoint? [h₁, h₂, h₃, h₄] = some c := by
  have hlow : c.toNat < 128 := by
    simp only [isControl, Bool.and_eq_true, Bool.or_eq_true, decide_eq_true_eq, beq_iff_eq] at h
    omega
  obtain ⟨hlength, hcode⟩ := codePoint?_hexadecimal c.toNat hlow
  match hdigits : hexadecimal c.toNat, hlength with
  | [h₁, h₂, h₃, h₄], _ => exact ⟨h₁, h₂, h₃, h₄, rfl, by rw [← hdigits, hcode, Char.ofNat_toNat]⟩

theorem escapedText_of_ne {multi : Bool} {bare : Nat} (hc : c ≠ '"') :
    escapedText multi bare (c :: cs) =
      escaped multi c ++ escapedText multi (escapedText.allowance multi) cs := by
  rw [escapedText]
  · exact fun _ => hc
  · exact fun _ _ => hc

theorem exists_escaped_eq_cons (multi : Bool) (hc : c ≠ '"') : ∃ d ds,
    escaped multi c = d :: ds ∧ d ≠ '"' ∧ d ≠ '\r' ∧ (d = '\n' → c = '\n') := by
  unfold escaped
  split
  case h_3 => cases multi <;> simp
  case h_7 _ _ _ _ hreturn _ => split <;> simp_all
  all_goals simp

/-- A text with escapes starts with a double quote only if that needs no escape, and with a line end
only if it holds one. -/
theorem exists_escapedText_eq_cons (multi : Bool) (bare : Nat) (hcs : cs ≠ []) : ∃ d ds,
    escapedText multi bare cs = d :: ds ∧ d ≠ '\r' ∧ (d = '\n' → '\n' ∈ cs) ∧
      (d = '"' → cs.head? = some '"' ∧ bare ≠ 0) := by
  obtain ⟨c, cs, rfl⟩ := List.exists_cons_of_ne_nil hcs
  by_cases hc : c = '"'
  · subst hc
    cases bare <;> simp [escapedText]
  · obtain ⟨d, ds, hd, hquote, hreturn, hline⟩ := exists_escaped_eq_cons multi hc
    refine ⟨d, ds ++ escapedText multi (escapedText.allowance multi) cs, ?_, hreturn,
      fun h => List.mem_cons.mpr (.inl (hline h).symm), fun h => absurd h hquote⟩
    rw [escapedText_of_ne hc, hd, List.cons_append]

/-! ## In double quotes -/

theorem basic_plain (hquote : c ≠ '"') (hback : c ≠ '\\') (h : isTextChar c = true) :
    basic (c :: rest) = prepend c (basic rest) := by
  rw [basic]
  · rw [if_pos (by simpa [h] using hback)]
  · exact hquote
  · exact fun _ _ _ _ _ hc _ => hback hc
  · exact fun _ _ _ _ _ _ _ _ _ hc _ => hback hc
  · exact fun _ _ hc _ => hback hc

theorem basic_escaped (hquote : c ≠ '"') :
    basic (escaped false c ++ rest) = prepend c (basic rest) := by
  unfold escaped
  split
  case h_7 _ _ hline _ _ hback =>
    split
    · rename_i hcontrol
      obtain ⟨h₁, h₂, h₃, h₄, hdigits, hcode⟩ := hexadecimal_control hcontrol
      rw [hdigits]
      show (codePoint? [h₁, h₂, h₃, h₄]).bind _ = _
      rw [hcode]
      rfl
    · rename_i hcontrol
      exact basic_plain hquote hback
        (isTextChar_of_not_control (Bool.eq_false_iff.mpr hcontrol) hline)
  all_goals rfl

theorem basic_escapedText : basic (escapedText false 0 cs ++ '"' :: rest) = some (cs, rest) := by
  induction cs with
  | nil => rfl
  | cons c cs ih =>
    by_cases hc : c = '"'
    · subst hc
      show prepend '"' (basic (escapedText false 0 cs ++ '"' :: rest)) = _
      rw [ih, prepend]
    · rw [escapedText_of_ne hc, List.append_assoc, basic_escaped hc]
      simp [escapedText.allowance, ih, prepend]

/-! ## In single quotes -/

theorem literal_append (h : ∀ c ∈ cs, c ≠ '\'' ∧ isTextChar c = true) :
    literal (cs ++ '\'' :: rest) = some (cs, rest) := by
  induction cs with
  | nil => simp [literal]
  | cons c cs ih =>
    obtain ⟨⟨hquote, htext⟩, hcs⟩ := List.forall_mem_cons.mp h
    rw [List.cons_append, literal, if_pos htext, ih hcs, prepend]
    exact hquote

/-! ## In three double quotes -/

/-- A character by itself, among them a double quote behind which there are not two more. -/
theorem multiBasic_plain (hback : c ≠ '\\') (h : isTextChar c = true)
    (hquotes : c = '"' → ∀ ds, rest ≠ '"' :: '"' :: ds) :
    multiBasic .nothing (c :: rest) = prepend c (multiBasic .nothing rest) := by
  obtain ⟨hline, hreturn⟩ := not_lineEnd_of_isTextChar h
  rw [multiBasic]
  · rw [if_pos (by simpa [h] using hback)]
  -- The other equations of the reader are about other characters, or about more quotes.
  all_goals simp_all

theorem multiBasic_escaped (hquote : c ≠ '"') :
    multiBasic .nothing (escaped true c ++ rest) = prepend c (multiBasic .nothing rest) := by
  unfold escaped
  split
  case h_7 _ _ hline _ _ hback =>
    split
    · rename_i hcontrol
      obtain ⟨h₁, h₂, h₃, h₄, hdigits, hcode⟩ := hexadecimal_control hcontrol
      rw [hdigits]
      show (codePoint? [h₁, h₂, h₃, h₄]).bind _ = _
      rw [hcode]
      rfl
    · rename_i hcontrol
      exact multiBasic_plain hback
        (isTextChar_of_not_control (Bool.eq_false_iff.mpr hcontrol) hline)
        fun h => absurd h hquote
  all_goals rfl

/-- Up to two double quotes stand before the closing ones. -/
theorem multiBasic_closing (hrest : Ends rest) : ∀ quotes ≤ 2,
    multiBasic .nothing (List.replicate quotes '"' ++ '"' :: '"' :: '"' :: rest) =
      some (List.replicate quotes '"', rest)
  | 0, _ => by cases hrest <;> rfl
  | 1, _ => by cases hrest <;> rfl
  | 2, _ => rfl

theorem escapedText_replicate {multi : Bool} {quotes bare : Nat} (h : quotes ≤ bare) :
    escapedText multi bare (List.replicate quotes '"') = List.replicate quotes '"' := by
  induction quotes generalizing bare with
  | zero => simp [escapedText]
  | succ quotes ih =>
    obtain ⟨bare, rfl⟩ : ∃ n, bare = n + 1 := ⟨bare - 1, by omega⟩
    rw [List.replicate_succ, escapedText, ih (by omega)]

/-- A text in which one more double quote needs no escape does not start with two, unless it holds
nothing else. -/
theorem not_two_quotes {bare : Nat} (hbare : bare ≤ 1)
    (hend : ∀ quotes ≤ bare, cs ≠ List.replicate quotes '"') (ds : List Char) :
    escapedText true bare cs ++ rest ≠ '"' :: '"' :: ds := by
  intro h
  obtain ⟨d, es, hd, -, -, hquote⟩ := exists_escapedText_eq_cons true bare (hend 0 (by omega))
  rw [hd, List.cons_append] at h
  obtain ⟨hhead, hne⟩ := hquote (List.cons.inj h).1
  obtain rfl : bare = 1 := by omega
  obtain ⟨cs, rfl⟩ := List.head?_eq_some_iff.mp hhead
  rw [escapedText] at hd
  -- Behind this quote, no further one may stand without an escape.
  have hcs : cs ≠ [] := fun hnil => hend 1 (by omega) (by rw [hnil]; rfl)
  obtain ⟨e, fs, he, -, -, hnext⟩ := exists_escapedText_eq_cons true 0 hcs
  rw [← (List.cons.inj hd).2, he] at h
  exact (hnext (List.cons.inj (List.cons.inj h).2).1).2 rfl

theorem multiBasic_escapedText {bare : Nat} (hbare : bare ≤ 2) (hrest : Ends rest) :
    multiBasic .nothing (escapedText true bare cs ++ '"' :: '"' :: '"' :: rest) =
      some (cs, rest) := by
  induction cs generalizing bare with
  | nil => exact multiBasic_closing hrest 0 (by omega)
  | cons c cs ih =>
    by_cases hc : c = '"'
    · subst hc
      match bare with
      | 0 =>
        show prepend '"' (multiBasic .nothing (escapedText true 2 cs ++ _)) = _
        rw [ih (by decide), prepend]
      | bare + 1 =>
        by_cases hend : ∃ quotes ≤ bare, cs = List.replicate quotes '"'
        · -- Nothing but quotes is left: they stand right before the closing ones.
          obtain ⟨quotes, hquotes, rfl⟩ := hend
          rw [← List.replicate_succ, escapedText_replicate (by omega)]
          exact multiBasic_closing hrest (quotes + 1) (by omega)
        · rw [escapedText, List.cons_append, multiBasic_plain (by decide) (by decide),
            ih (by omega), prepend]
          exact fun _ => not_two_quotes (by omega) fun quotes hquotes h => hend ⟨quotes, hquotes, h⟩
    · rw [escapedText_of_ne hc, List.append_assoc, multiBasic_escaped hc, escapedText.allowance,
        if_pos rfl, ih (by omega), prepend]

/-! ## In three single quotes -/

/-- A character by itself, among them a single quote behind which there are not two more. -/
theorem multiLiteral_plain (h : isTextChar c = true)
    (hquotes : c = '\'' → ∀ ds, rest ≠ '\'' :: '\'' :: ds) :
    multiLiteral (c :: rest) = prepend c (multiLiteral rest) := by
  obtain ⟨hline, hreturn⟩ := not_lineEnd_of_isTextChar h
  rw [multiLiteral, if_pos h]
  all_goals simp_all

/-- Up to two single quotes stand before the closing ones. -/
theorem multiLiteral_closing (hrest : Ends rest) : ∀ quotes ≤ 2,
    multiLiteral (List.replicate quotes '\'' ++ '\'' :: '\'' :: '\'' :: rest) =
      some (List.replicate quotes '\'', rest)
  | 0, _ => by cases hrest <;> rfl
  | 1, _ => by cases hrest <;> rfl
  | 2, _ => rfl

/-- Where no three single quotes stand in a row, either nothing but quotes is left behind one, or
two more do not follow. -/
theorem only_quotes_or (hrun : hasRun 3 '\'' ('\'' :: cs) = false) :
    (∃ quotes ≤ 1, cs = List.replicate quotes '\'') ∨
      ∀ ds, cs ++ '\'' :: '\'' :: '\'' :: rest ≠ '\'' :: '\'' :: ds := by
  cases cs with
  | nil => exact .inl ⟨0, by omega, rfl⟩
  | cons d cs =>
    by_cases hd : d = '\''
    · subst hd
      cases cs with
      | nil => exact .inl ⟨1, by omega, rfl⟩
      | cons e cs =>
        right
        intro ds h
        obtain ⟨rfl, -⟩ := List.cons.inj (List.cons.inj h).2
        simp [hasRun, Text.occursIn, List.replicate, List.isPrefixOf] at hrun
    · exact .inr fun ds h => hd (List.cons.inj h).1

theorem multiLiteral_append (hcontrols : cs.any isControl = false)
    (hrun : hasRun 3 '\'' cs = false) (hrest : Ends rest) :
    multiLiteral (cs ++ '\'' :: '\'' :: '\'' :: rest) = some (cs, rest) := by
  induction cs with
  | nil => exact multiLiteral_closing hrest 0 (by omega)
  | cons c cs ih =>
    obtain ⟨hcontrol, hcs⟩ := Bool.or_eq_false_iff.mp (List.any_cons ▸ hcontrols)
    have htail : hasRun 3 '\'' cs = false := (Bool.or_eq_false_iff.mp hrun).2
    by_cases hline : c = '\n'
    · subst hline
      show prepend '\n' (multiLiteral (cs ++ '\'' :: '\'' :: '\'' :: rest)) = _
      rw [ih hcs htail, prepend]
    · have htext := isTextChar_of_not_control hcontrol hline
      by_cases hquote : c = '\''
      · subst hquote
        obtain ⟨quotes, hquotes, rfl⟩ | hquotes := only_quotes_or hrun
        · exact multiLiteral_closing hrest (quotes + 1) (by omega)
        · rw [List.cons_append, multiLiteral_plain htext fun _ => hquotes, ih hcs htail, prepend]
      · rw [List.cons_append, multiLiteral_plain htext fun h => absurd h hquote, ih hcs htail,
          prepend]

/-! ## The opening quotes -/

/-- Triple quotes open no string on one line. -/
theorem any_of_line (h : ∀ d ds, cs = d :: d :: d :: ds → d ≠ '"' ∧ d ≠ '\'') :
    any cs = line cs := by
  unfold any
  split
  · exact absurd rfl (h _ _ rfl).1
  · exact absurd rfl (h _ _ rfl).2
  · rfl

theorem dropLineEnd_eq_self (hline : cs.head? ≠ some '\n') (hreturn : cs.head? ≠ some '\r') :
    dropLineEnd cs = cs := by
  unfold dropLineEnd afterLineEnd?
  split
  · exact absurd rfl hline
  · exact absurd rfl hreturn
  · rfl

/-- Of a text behind triple quotes, the line end is dropped that was written in front of it, and
nothing else. -/
theorem dropLineEnd_start {body : List Char} (hreturn : body.head? ≠ some '\r')
    (hline : body.head? = some '\n' → '\n' ∈ cs) :
    dropLineEnd ((if cs.contains '\n' then ['\n'] else []) ++ body) = body := by
  by_cases h : '\n' ∈ cs
  · rw [if_pos (by simpa using h)]
    rfl
  · rw [if_neg (by simpa using h)]
    exact dropLineEnd_eq_self (fun hb => h (hline hb)) hreturn

/-! ## Every style -/

theorem any_basic (hrest : Ends rest) :
    any.run (quotedIn .basic cs ++ rest) = some (String.ofList cs, rest) := by
  have htext : quotedIn .basic cs ++ rest = '"' :: (escapedText false 0 cs ++ '"' :: rest) := by
    simp [quotedIn, Style.quotes, Style.isMulti]
  rw [htext, StateT.run, any_of_line]
  · simp [line, basic_escapedText]
  · intro d ds h
    obtain ⟨rfl, h⟩ := List.cons.inj h
    by_cases hcs : cs = []
    · subst hcs
      cases hrest <;> simp [escapedText] at h
    · obtain ⟨e, es, he, -, -, hquote⟩ := exists_escapedText_eq_cons false 0 hcs
      rw [he] at h
      exact absurd rfl (hquote (List.cons.inj h).1).2

theorem any_literal (hcs : cs ≠ []) (h : ∀ c ∈ cs, c ≠ '\'' ∧ isTextChar c = true) :
    any.run (quotedIn .literal cs ++ rest) = some (String.ofList cs, rest) := by
  have htext : quotedIn .literal cs ++ rest = '\'' :: (cs ++ '\'' :: rest) := by
    simp [quotedIn, Style.quotes, Style.isMulti]
  rw [htext, StateT.run, any_of_line]
  · simp [line, literal_append h]
  · obtain ⟨c, cs, rfl⟩ := List.exists_cons_of_ne_nil hcs
    intro d ds heq
    obtain ⟨rfl, heq⟩ := List.cons.inj heq
    exact absurd (List.cons.inj heq).1 (h c List.mem_cons_self).1

theorem any_multiBasic (hrest : Ends rest) :
    any.run (quotedIn .multiBasic cs ++ rest) = some (String.ofList cs, rest) := by
  have htext : quotedIn .multiBasic cs ++ rest = '"' :: '"' :: '"' ::
      ((if cs.contains '\n' then ['\n'] else []) ++
        (escapedText true 2 cs ++ '"' :: '"' :: '"' :: rest)) := by
    simp [quotedIn, Style.quotes, Style.isMulti]
  have hhead : (escapedText true 2 cs ++ '"' :: '"' :: '"' :: rest).head? ≠ some '\r' ∧
      ((escapedText true 2 cs ++ '"' :: '"' :: '"' :: rest).head? = some '\n' → '\n' ∈ cs) := by
    by_cases hcs : cs = []
    · subst hcs
      simp [escapedText]
    · obtain ⟨d, ds, hd, hreturn, hline, -⟩ := exists_escapedText_eq_cons true 2 hcs
      simpa [hd] using And.intro hreturn hline
  rw [htext, StateT.run, any, dropLineEnd_start hhead.1 hhead.2,
    multiBasic_escapedText (by omega) hrest]
  rfl

theorem any_multiLiteral (hcontrols : cs.any isControl = false) (hrun : hasRun 3 '\'' cs = false)
    (hrest : Ends rest) :
    any.run (quotedIn .multiLiteral cs ++ rest) = some (String.ofList cs, rest) := by
  have htext : quotedIn .multiLiteral cs ++ rest = '\'' :: '\'' :: '\'' ::
      ((if cs.contains '\n' then ['\n'] else []) ++ (cs ++ '\'' :: '\'' :: '\'' :: rest)) := by
    simp [quotedIn, Style.quotes, Style.isMulti]
  have hreturn : (cs ++ '\'' :: '\'' :: '\'' :: rest).head? ≠ some '\r' := by
    cases cs with
    | nil => simp
    | cons c cs =>
      have hcontrol := (Bool.or_eq_false_iff.mp (List.any_cons ▸ hcontrols)).1
      rintro ⟨⟩
      exact absurd hcontrol (by decide)
  have hline : (cs ++ '\'' :: '\'' :: '\'' :: rest).head? = some '\n' → '\n' ∈ cs := by
    cases cs with
    | nil => simp
    | cons c cs => rintro ⟨⟩; exact List.mem_cons_self
  rw [htext, StateT.run, any, dropLineEnd_start hreturn hline,
    multiLiteral_append hcontrols hrun hrest]
  rfl

/-- **Strings read back**: in the style that is chosen for it, every text is read as what it is. -/
theorem any_quotedIn (hrest : Ends rest) :
    any.run (quotedIn (Style.choose cs) cs ++ rest) = some (String.ofList cs, rest) := by
  unfold Style.choose
  simp only
  split
  · exact any_basic hrest
  rename_i hbasic
  split
  · rename_i hliteral
    simp only [Bool.and_eq_true, Bool.not_eq_true', List.contains_eq_mem, decide_eq_false_iff_not,
      List.any_eq_false] at hliteral
    obtain ⟨⟨hcontrols, hquote⟩, hline⟩ := hliteral
    refine any_literal ?_ fun c hc => ⟨fun h => hquote (h ▸ hc), ?_⟩
    · rintro rfl
      exact hbasic rfl
    · exact isTextChar_of_not_control (Bool.eq_false_iff.mpr (hcontrols c hc))
        fun h => hline (h ▸ hc)
  split
  · exact any_multiBasic hrest
  split
  · rename_i h
    obtain ⟨hcontrols, hrun⟩ := Bool.and_eq_true_iff.mp h
    exact any_multiLiteral (by simpa using hcontrols) (by simpa using hrun) hrest
  split
  · exact any_multiBasic hrest
  · exact any_basic hrest

theorem any_string (s : String) (hrest : Ends rest) :
    any.run ((Printer.string s).toList ++ rest) = some (s, rest) := by
  rw [Printer.string, String.toList_ofList, any_quotedIn hrest, String.ofList_toList]

end Quotation

end Testbed.Toml

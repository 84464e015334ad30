import Testbed.Proofs.Record.Reading

/-!
# Writing logs

A `Layout` is one of the many ways to write the outcomes of tests down as a log: it chooses the gaps
in every line, the line ends, where the architecture is named and what else stands in the log. A
layout names one architecture by construction, and what is neither its line nor that of a test says
nothing.

Result: **`read_text`**: whichever the layout, reading the log gives the outcomes back, in order.
-/

namespace Testbed.Log

open Text (isGap isBlank isDecimalDigit trim)

/-- Any number of spaces and tabs. -/
structure Gap where
  text : List Char
  only : Only isGap text

/-- One or more spaces and tabs. -/
structure Space where
  text : List Char
  some : OneOrMore isGap text

/-- The outcome of a test, with what a log writes for its status. -/
structure Outcome where
  name : String
  status : Status
  exitValue : Int32
  code : String
  word : OneOrMore isInk name.toList
  writes : Writes status code

namespace Outcome

/-- What the line of the test says. -/
def entry (o : Outcome) : Entry := ⟨o.name, o.code, toString o.exitValue.toInt⟩

/-- The record of the test. -/
def record (version architecture : String) (o : Outcome) : Record :=
  ⟨version, architecture, o.name, o.status, o.exitValue⟩

theorem recordedAs (version architecture : String) (o : Outcome) :
    RecordedAs version architecture o.entry (o.record version architecture) :=
  ⟨rfl, rfl, rfl, o.writes, Text.Numeral.denotes_toString o.exitValue.toInt⟩

end Outcome

/-- A line other than that of the architecture: the line of a test, or one that says nothing. -/
inductive Line where
  | test (outcome : Outcome) (lead : Gap) (gap gap' : Space) (trail : Gap)
  | noise (text : List Char) (one : '\n' ∉ text) (unnamed : ∀ a, ¬ NamesArchitecture text a)
    (untested : ∀ e, ¬ ReportsTest text e)

namespace Line

/-- The outcome that a line reports. -/
def outcome? : Line → Option Outcome
  | test o .. => some o
  | noise .. => none

/-- The line as text, without its end. -/
def text : Line → List Char
  | test o lead gap gap' trail =>
    lead.text ++ (o.name.toList ++ (gap.text ++ (o.code.toList ++
      (gap'.text ++ ((toString o.exitValue.toInt).toList ++ trail.text)))))
  | noise text .. => text

end Line

/-- What stands before the line feed that ends a line. -/
def lineEnd (crlf : Bool) : List Char := if crlf then ['\r'] else []

/-- A line with the choice of its end. -/
structure Row where
  line : Line
  crlf : Bool

/-- The row as text, up to its line feed. -/
def Row.text (r : Row) : List Char := r.line.text ++ lineEnd r.crlf

/-- A way to write a log. -/
structure Layout where
  architecture : String
  nonempty : architecture ≠ ""
  trimmed : Text.trimmed architecture = architecture
  oneLine : '\r' ∉ architecture.toList ∧ '\n' ∉ architecture.toList
  /-- The gaps of the architecture's line, and the choice of its end. -/
  lead : Gap
  gap : Gap
  trail : Gap
  crlf : Bool
  /-- The rows above the architecture's line, and those below. -/
  above : List Row
  below : List Row
  /-- Whether the last line is ended, too. -/
  ended : Bool

namespace Layout

/-- The outcomes that a layout writes, in order. -/
def outcomes (d : Layout) : List Outcome := (d.above ++ d.below).filterMap (·.line.outcome?)

/-- The line of the architecture. -/
def architectureText (d : Layout) : List Char :=
  d.lead.text ++ (label ++ (d.gap.text ++ (d.architecture.toList ++
    (d.trail.text ++ lineEnd d.crlf))))

/-- The lines as texts. -/
def rows (d : Layout) : List (List Char) :=
  d.above.map Row.text ++ d.architectureText :: d.below.map Row.text

/-- The log. -/
def text (d : Layout) : String :=
  String.ofList (['\n'].intercalate d.rows ++ if d.ended then ['\n'] else [])

end Layout

/-! ## What the lines say -/

theorem optionalReturn_lineEnd (crlf : Bool) : OptionalReturn (lineEnd crlf) := by
  cases crlf
  · exact Or.inl rfl
  · exact Or.inr rfl

theorem isDecimalDigit_of_isDigit {c : Char} (h : c.isDigit = true) : isDecimalDigit c = true := by
  have hr : c.toNat ≥ 0x30 ∧ c.toNat ≤ 0x39 := Char.isDigit_iff_toNat.mp h
  refine List.any_eq_true.mpr ⟨(0x30, 0x39), List.mem_cons_self, ?_⟩
  simp only [Bool.and_eq_true, decide_eq_true_eq]
  exact hr

theorem Writes.capitals {s : Status} {code : String} (h : Writes s code) :
    OneOrMore isCapital code.toList := by
  cases h <;> decide

/-- The row of a test reports its outcome. -/
theorem reportsTest_test (o : Outcome) (lead : Gap) (gap gap' : Space) (trail : Gap)
    (crlf : Bool) : ReportsTest (Row.text ⟨.test o lead gap gap' trail, crlf⟩) o.entry := by
  obtain ⟨hdigits, -⟩ := Text.Numeral.isDigits_repr o.exitValue.toInt.natAbs
  have hsign : (if o.exitValue.toInt < 0 then ['-'] else []) = [] ∨
      (if o.exitValue.toInt < 0 then ['-'] else []) = ['-'] := by
    split
    · exact Or.inr rfl
    · exact Or.inl rfl
  have h := ReportsTest.intro lead.only o.word gap.some o.writes.capitals gap'.some hsign
    ⟨hdigits.1, fun c hc => isDecimalDigit_of_isDigit (hdigits.2 c hc)⟩ trail.only
    (optionalReturn_lineEnd crlf)
  rw [← Text.Numeral.toList_toString] at h
  simpa [Row.text, Line.text, Outcome.entry] using h

/-- A line that says nothing says nothing in a row, either. -/
theorem says_nothing {text : List Char} (unnamed : ∀ a, ¬ NamesArchitecture text a)
    (untested : ∀ e, ¬ ReportsTest text e) (crlf : Bool) :
    (∀ a, ¬ NamesArchitecture (text ++ lineEnd crlf) a) ∧
      ∀ e, ¬ ReportsTest (text ++ lineEnd crlf) e := by
  cases crlf
  · rw [lineEnd, if_neg Bool.false_ne_true, List.append_nil]
    exact ⟨unnamed, untested⟩
  · exact ⟨fun a h => unnamed a h.of_return, fun e h => untested e h.of_return⟩

/-- No row names an architecture. -/
theorem not_namesArchitecture_row (r : Row) (a : String) : ¬ NamesArchitecture r.text a := by
  obtain ⟨line, crlf⟩ := r
  cases line with
  | test o lead gap gap' trail =>
    exact fun h => not_reportsTest_of_namesArchitecture h
      (reportsTest_test o lead gap gap' trail crlf)
  | noise text _ unnamed untested => exact (says_nothing unnamed untested crlf).1 a

/-- A row reports the outcome of its line, if there is one, and no other. -/
theorem reportsTest_row (r : Row) :
    (∀ e, r.line.outcome?.map Outcome.entry = some e → ReportsTest r.text e) ∧
      (r.line.outcome?.map Outcome.entry = none → ∀ e, ¬ ReportsTest r.text e) := by
  obtain ⟨line, crlf⟩ := r
  cases line with
  | test o lead gap gap' trail =>
    refine ⟨fun e he => ?_, fun h => absurd h (Option.some_ne_none _)⟩
    obtain rfl := Option.some.inj he
    exact reportsTest_test o lead gap gap' trail crlf
  | noise text _ unnamed untested =>
    exact ⟨fun e he => absurd he.symm (Option.some_ne_none e),
      fun _ => (says_nothing unnamed untested crlf).2⟩

/-- The architecture's line names it. -/
theorem namesArchitecture_architectureText (d : Layout) :
    NamesArchitecture d.architectureText d.architecture := by
  have htrim : Text.trim d.architecture.toList = d.architecture.toList := by
    have h := congrArg String.toList d.trimmed
    unfold Text.trimmed at h
    rwa [String.toList_ofList] at h
  have hink : ∃ c cs, d.architecture.toList = c :: cs ∧ isInk c = true := by
    cases h : d.architecture.toList with
    | nil => exact absurd (String.toList_eq_nil_iff.mp h) d.nonempty
    | cons c cs =>
      rw [h] at htrim
      exact ⟨c, cs, rfl, by rw [isInk, Text.isBlank_head_of_trim_eq htrim]; rfl⟩
  have h := NamesArchitecture.intro d.lead.only d.gap.only hink d.oneLine.1 d.trail.only
    (optionalReturn_lineEnd d.crlf)
  rwa [htrim, String.ofList_toList] at h

/-! ## The lines of the log -/

theorem lineFeed_not_mem_lineEnd (crlf : Bool) : '\n' ∉ lineEnd crlf := by
  cases crlf <;> decide

theorem lineFeed_not_mem_row (r : Row) : '\n' ∉ r.text := by
  obtain ⟨line, crlf⟩ := r
  rw [Row.text, List.mem_append, not_or]
  refine ⟨?_, lineFeed_not_mem_lineEnd crlf⟩
  cases line with
  | noise text one _ _ => exact one
  | test o lead gap gap' trail =>
    have hnumber : '\n' ∉ (toString o.exitValue.toInt).toList := by
      obtain ⟨hdigits, -⟩ := Text.Numeral.isDigits_repr o.exitValue.toInt.natAbs
      rw [Text.Numeral.toList_toString, List.mem_append, not_or]
      exact ⟨by split <;> decide, not_mem_of_only (by decide) hdigits.2⟩
    simp only [Line.text, List.mem_append, not_or]
    exact ⟨not_mem_of_only (by decide) lead.only, not_mem_of_only (by decide) o.word.2,
      not_mem_of_only (by decide) gap.some.2,
      not_mem_of_only (by decide) o.writes.capitals.2, not_mem_of_only (by decide) gap'.some.2, hnumber,
      not_mem_of_only (by decide) trail.only⟩

theorem lineFeed_not_mem_architectureText (d : Layout) : '\n' ∉ d.architectureText := by
  simp only [Layout.architectureText, List.mem_append, not_or]
  exact ⟨not_mem_of_only (by decide) d.lead.only, by decide, not_mem_of_only (by decide) d.gap.only,
    d.oneLine.2, not_mem_of_only (by decide) d.trail.only, lineFeed_not_mem_lineEnd d.crlf⟩

/-- The lines of the log are the rows, behind which an empty one stands if the last row is ended. -/
theorem lines_text (d : Layout) : lines d.text = d.rows ++ if d.ended then [[]] else [] := by
  have hrows : (['\n'].intercalate d.rows).splitOn '\n' = d.rows := by
    refine List.splitOn_intercalate '\n' (fun p hp => ?_) (by simp [Layout.rows])
    simp only [Layout.rows, List.mem_append, List.mem_cons, List.mem_map] at hp
    rcases hp with ⟨r, -, rfl⟩ | rfl | ⟨r, -, rfl⟩
    · exact lineFeed_not_mem_row r
    · exact lineFeed_not_mem_architectureText d
    · exact lineFeed_not_mem_row r
  rw [lines, Layout.text, String.toList_ofList]
  cases d.ended with
  | false => simpa using hrows
  | true =>
    rw [if_pos rfl, List.splitOn_append_cons_self, hrows]
    rfl

theorem not_namesArchitecture_nil (a : String) : ¬ NamesArchitecture [] a := by
  intro h
  generalize hl : ([] : List Char) = l at h
  obtain @⟨lead, gap, value, trail, ret, -, -, -, -, -, -⟩ := h
  have hlabel : label ≠ [] := by decide
  exact hlabel (List.append_eq_nil_iff.mp (List.append_eq_nil_iff.mp hl.symm).2).1

theorem not_reportsTest_nil (e : Entry) : ¬ ReportsTest [] e := by
  intro h
  have hnone : Text.words [] = [] := rfl
  rw [words_of_reportsTest h] at hnone
  exact List.cons_ne_nil _ _ hnone

/-- An empty line that ends the log does not count. -/
theorem sifted_ended {β : Type} {R : List Char → β → Prop} (h : ∀ y, ¬ R [] y) (ended : Bool) :
    Sifted R (if ended then [[]] else []) [] := by
  cases ended
  · exact .nil
  · exact .pass h .nil

/-- The log names its architecture once. -/
theorem sifted_architectures_text (d : Layout) :
    Sifted NamesArchitecture (lines d.text) [d.architecture] := by
  have hrows : ∀ rows : List Row, Sifted NamesArchitecture (rows.map Row.text) [] := by
    intro rows
    have h : Sifted NamesArchitecture (rows.map Row.text) (rows.filterMap fun _ => none) :=
      sifted_map (fun r _ y hy => absurd hy.symm (Option.some_ne_none y))
        fun r _ _ => not_namesArchitecture_row r
    rwa [List.filterMap_none] at h
  rw [lines_text, Layout.rows, List.append_assoc]
  exact (hrows d.above).append (.keep (namesArchitecture_architectureText d)
    ((hrows d.below).append (sifted_ended not_namesArchitecture_nil d.ended)))

/-- The log reports its outcomes, in order. -/
theorem sifted_entries_text (d : Layout) :
    Sifted ReportsTest (lines d.text) (d.outcomes.map Outcome.entry) := by
  have hrows : ∀ rows : List Row, Sifted ReportsTest (rows.map Row.text)
      ((rows.filterMap (·.line.outcome?)).map Outcome.entry) := by
    intro rows
    rw [List.map_filterMap]
    exact sifted_map (fun r _ => (reportsTest_row r).1) fun r _ => (reportsTest_row r).2
  -- The architecture's line counts as one that says nothing of a test.
  have harchitecture : ∀ e, ¬ ReportsTest d.architectureText e := fun e =>
    not_reportsTest_of_namesArchitecture (namesArchitecture_architectureText d)
  rw [lines_text, Layout.rows, List.append_assoc, Layout.outcomes, List.filterMap_append,
    List.map_append, ← List.append_nil (List.map _ (List.filterMap _ d.below))]
  exact (hrows d.above).append (.pass harchitecture
    ((hrows d.below).append (sifted_ended not_reportsTest_nil d.ended)))

/-- **Writing and reading**: a log gives its outcomes back, whichever its layout. -/
theorem read_text (version : String) (d : Layout) :
    read version d.text = .ok (d.outcomes.map (·.record version d.architecture)) := by
  have hrecords : List.Forall₂ (RecordedAs version d.architecture) (d.outcomes.map Outcome.entry)
      (d.outcomes.map (·.record version d.architecture)) := by
    rw [List.forall₂_map_left_iff, List.forall₂_map_right_iff]
    exact List.forall₂_same.mpr fun o _ => o.recordedAs version d.architecture
  refine read_of_reads ?_
  rw [← sifted_architectures.mp (sifted_architectures_text d),
    ← sifted_entries.mp (sifted_entries_text d)]
  exact .records hrecords

end Testbed.Log

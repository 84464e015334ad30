import Mathlib.Data.List.Forall2
import Testbed.Proofs.Record.Line
import Testbed.Proofs.Text.Numeral

/-!
# A log is read line by line

The reader of a log searches the whole text for two patterns. `Reads` says what it should answer in
terms of the lines of the log alone: those that name an architecture, and those that report a test.

* `Sifted R xs ys`: `ys` is what those of the `xs` say that say anything, in order.
* `RecordedAs`, `Faulty`: what becomes of one line that reports a test.
* `Reads`: the answer. A wrong number of architectures comes first; of the faults of tests, the
  first line's counts, and in one line the status before the exit value.

Headline: **`reads_iff_read`**: the reader's answer is the one that the lines decide.
-/

namespace Testbed.Log

open Text.Numeral (Denotes)

/-- The lines of a log: what stands between line feeds. -/
def lines (log : String) : List (List Char) := log.toList.splitOn '\n'

/-! ## What lines say, in order -/

/-- `ys` is what those of the `xs` say that say anything, in order. -/
inductive Sifted {α β : Type} (R : α → β → Prop) : List α → List β → Prop
  | nil : Sifted R [] []
  | keep {x : α} {y : β} {xs : List α} {ys : List β} (h : R x y) (hs : Sifted R xs ys) :
      Sifted R (x :: xs) (y :: ys)
  | pass {x : α} {xs : List α} {ys : List β} (h : ∀ y, ¬ R x y) (hs : Sifted R xs ys) :
      Sifted R (x :: xs) ys

/-- A function that computes what each element says sifts a list. -/
theorem sifted_iff {α β : Type} {R : α → β → Prop} {f : α → Option β} {xs : List α} {ys : List β}
    (hf : ∀ x ∈ xs, ∀ y, f x = some y ↔ R x y) : Sifted R xs ys ↔ ys = xs.filterMap f := by
  induction xs generalizing ys with
  | nil =>
    constructor
    · rintro ⟨⟩
      rfl
    · rintro rfl
      exact .nil
  | cons x xs ih =>
    obtain ⟨hx, hxs⟩ := List.forall_mem_cons.mp hf
    rw [List.filterMap_cons]
    cases h : f x with
    | none =>
      have hno : ∀ y, ¬ R x y := fun y hy => by
        rw [(hx y).mpr hy] at h
        exact Option.some_ne_none y h
      simp only
      rw [← ih hxs]
      constructor
      · rintro (_ | ⟨hy, hs⟩ | ⟨-, hs⟩)
        · exact absurd hy (hno _)
        · exact hs
      · exact fun hs => .pass hno hs
    | some y =>
      have hy := (hx y).mp h
      simp only
      constructor
      · rintro (_ | ⟨hy', hs⟩ | ⟨hno, hs⟩)
        · rw [(hx _).mpr hy'] at h
          rw [Option.some.inj h, (ih hxs).mp hs]
        · exact absurd hy (hno y)
      · rintro rfl
        exact .keep hy ((ih hxs).mpr rfl)

theorem Sifted.append {α β : Type} {R : α → β → Prop} {xs xs' : List α} {ys ys' : List β}
    (h : Sifted R xs ys) (h' : Sifted R xs' ys') : Sifted R (xs ++ xs') (ys ++ ys') := by
  induction h with
  | nil => exact h'
  | keep hx _ ih => exact .keep hx ih
  | pass hx _ ih => exact .pass hx ih

/-- Texts that are known to say what `f` gives sift to that. -/
theorem sifted_map {α β γ : Type} {R : α → β → Prop} {text : γ → α} {f : γ → Option β}
    {rows : List γ} (hsome : ∀ r ∈ rows, ∀ y, f r = some y → R (text r) y)
    (hnone : ∀ r ∈ rows, f r = none → ∀ y, ¬ R (text r) y) :
    Sifted R (rows.map text) (rows.filterMap f) := by
  induction rows with
  | nil => exact .nil
  | cons r rows ih =>
    obtain ⟨hs, hss⟩ := List.forall_mem_cons.mp hsome
    obtain ⟨hn, hns⟩ := List.forall_mem_cons.mp hnone
    rw [List.filterMap_cons]
    cases h : f r with
    | none => exact .pass (hn h) (ih hss hns)
    | some y => exact .keep (hs y h) (ih hss hns)

/-! ## One test -/

/-- How the log writes a status. -/
inductive Writes : Status → String → Prop
  | pass : Writes .passed "PASS"
  | fail : Writes .failed "FAIL"
  | conf : Writes .skipped "CONF"

theorem status?_eq_some_iff {code : String} {s : Status} : status? code = some s ↔ Writes s code := by
  constructor
  · intro h
    unfold status? at h
    split at h
    · obtain rfl := Option.some.inj h
      exact .pass
    · obtain rfl := Option.some.inj h
      exact .fail
    · obtain rfl := Option.some.inj h
      exact .conf
    · exact absurd h.symm (Option.some_ne_none s)
  · rintro (_ | _ | _) <;> rfl

variable {version architecture : String} {e : Entry} {r : Record} {f : LogError}

/-- The record of a test: it carries the version and the architecture of the log, the name as it
stands in the line, and the status and the number that are written there. -/
structure RecordedAs (version architecture : String) (e : Entry) (r : Record) : Prop where
  version_eq : r.version = version
  architecture_eq : r.architecture = architecture
  name_eq : r.name = e.name
  status : Writes r.status e.code
  exitValue : Denotes e.exitText.toList r.exitValue.toInt

/-- What is wrong with the line of a test, if anything is. -/
inductive Faulty : Entry → LogError → Prop
  | status {e : Entry} (h : ∀ s, ¬ Writes s e.code) : Faulty e (.unknownStatus e.code)
  | exitValue {e : Entry} {s : Status} (hs : Writes s e.code)
      (h : ∀ v : Int32, ¬ Denotes e.exitText.toList v.toInt) :
      Faulty e (.invalidExitValue e.name e.exitText)

theorem record_eq_ok (h : RecordedAs version architecture e r) :
    e.record version architecture = .ok r := by
  obtain ⟨hv, ha, hn, hs, hx⟩ := h
  have hstatus : status? e.code = some r.status := status?_eq_some_iff.mpr hs
  have hexit : Text.Numeral.readInt32? e.exitText.toList = some r.exitValue :=
    Text.Numeral.readInt32?_eq_some_iff.mpr hx
  unfold Entry.record readStatus
  rw [hstatus, hexit, ← hv, ← ha, ← hn]
  rfl

theorem record_eq_error (h : Faulty e f) : e.record version architecture = .error f := by
  unfold Entry.record readStatus
  cases h with
  | status h =>
    have hs : status? e.code = none := Option.eq_none_iff_forall_ne_some.mpr fun s hs =>
      h s (status?_eq_some_iff.mp hs)
    rw [hs]
    rfl
  | exitValue hs h =>
    have hx : Text.Numeral.readInt32? e.exitText.toList = none :=
      Option.eq_none_iff_forall_ne_some.mpr fun v hv =>
        h v (Text.Numeral.readInt32?_eq_some_iff.mp hv)
    rw [status?_eq_some_iff.mpr hs, hx]
    rfl

/-- A line that reports a test makes a record or is faulty. -/
theorem recordedAs_or_faulty (version architecture : String) (e : Entry) :
    (∃ r, RecordedAs version architecture e r) ∨ ∃ f, Faulty e f := by
  by_cases hs : ∃ s, Writes s e.code
  · obtain ⟨s, hs⟩ := hs
    by_cases hx : ∃ v : Int32, Denotes e.exitText.toList v.toInt
    · obtain ⟨v, hv⟩ := hx
      exact Or.inl ⟨⟨version, architecture, e.name, s, v⟩, rfl, rfl, rfl, hs, hv⟩
    · exact Or.inr ⟨_, .exitValue hs fun v hv => hx ⟨v, hv⟩⟩
  · exact Or.inr ⟨_, .status fun s h => hs ⟨s, h⟩⟩

/-! ## All tests -/

variable {α β ε : Type} {g : α → Except ε β} {xs : List α} {ys : List β}

theorem mapM_eq_ok (h : List.Forall₂ (fun x y => g x = .ok y) xs ys) : xs.mapM g = .ok ys := by
  induction h with
  | nil => rfl
  | cons hx _ ih =>
    rw [List.mapM_cons, hx, ih]
    rfl

theorem mapM_eq_error {x : α} {e : ε} (h : List.Forall₂ (fun x y => g x = .ok y) xs ys)
    (hx : g x = .error e) (rest : List α) : (xs ++ x :: rest).mapM g = .error e := by
  induction h with
  | nil =>
    rw [List.nil_append, List.mapM_cons, hx]
    rfl
  | cons hy _ ih =>
    rw [List.cons_append, List.mapM_cons, hy, ih]
    rfl

/-- **What a log says**, given the architectures that its lines name and the tests that they
report. -/
inductive Reads (version : String) :
    List String → List Entry → Except LogError (List Record) → Prop
  | missing {tests : List Entry} : Reads version [] tests (.error .missingArchitecture)
  | duplicate {architectures : List String} {tests : List Entry} (h : 2 ≤ architectures.length) :
      Reads version architectures tests (.error (.duplicateArchitecture architectures.length))
  | records {architecture : String} {tests : List Entry} {records : List Record}
      (h : List.Forall₂ (RecordedAs version architecture) tests records) :
      Reads version [architecture] tests (.ok records)
  | fault {architecture : String} {good : List Entry} {records : List Record} {bad : Entry}
      {error : LogError} (h : List.Forall₂ (RecordedAs version architecture) good records)
      (hbad : Faulty bad error) (rest : List Entry) :
      Reads version [architecture] (good ++ bad :: rest) (.error error)

/-- The tests make records up to the first that is faulty, if one is. -/
theorem exists_reads_one (version architecture : String) (tests : List Entry) :
    ∃ answer, Reads version [architecture] tests answer := by
  suffices h : (∃ records, List.Forall₂ (RecordedAs version architecture) tests records) ∨
      ∃ good records bad rest error, tests = good ++ bad :: rest ∧
        List.Forall₂ (RecordedAs version architecture) good records ∧ Faulty bad error by
    rcases h with ⟨records, h⟩ | ⟨good, records, bad, rest, error, rfl, h, hbad⟩
    · exact ⟨_, .records h⟩
    · exact ⟨_, .fault h hbad rest⟩
  induction tests with
  | nil => exact Or.inl ⟨[], .nil⟩
  | cons e tests ih =>
    rcases recordedAs_or_faulty version architecture e with ⟨r, hr⟩ | ⟨f, hf⟩
    -- The first fault is that of the rest, if the first line has none.
    · rcases ih with ⟨records, h⟩ | ⟨good, records, bad, rest, error, rfl, h, hbad⟩
      · exact Or.inl ⟨r :: records, .cons hr h⟩
      · exact Or.inr ⟨e :: good, r :: records, bad, rest, error, rfl, .cons hr h, hbad⟩
    · exact Or.inr ⟨[], [], e, tests, f, rfl, .nil, hf⟩

theorem exists_reads (version : String) (architectures : List String) (tests : List Entry) :
    ∃ answer, Reads version architectures tests answer := by
  match architectures with
  | [] => exact ⟨_, .missing⟩
  | [architecture] => exact exists_reads_one version architecture tests
  | _ :: _ :: _ => exact ⟨_, .duplicate (by simp)⟩

/-- What the reader makes of the architectures and the tests it has found. -/
theorem read_of_reads {log : String} {answer : Except LogError (List Record)}
    (h : Reads version (architectures log) (entries log) answer) : read version log = answer := by
  unfold read readArchitecture
  generalize architectures log = as at h
  generalize entries log = es at h
  cases h with
  | missing => rfl
  | duplicate h =>
    match as, h with
    | _ :: _ :: _, _ => rfl
  | records h => exact mapM_eq_ok (h.imp fun _ _ => record_eq_ok)
  | fault h hbad rest => exact mapM_eq_error (h.imp fun _ _ => record_eq_ok) (record_eq_error hbad) rest

/-! ## The whole log -/

theorem not_mem_of_mem_lines {log : String} {l : List Char} (h : l ∈ lines log) : '\n' ∉ l := by
  exact Text.not_mem_of_mem_splitOn h

/-- The architectures that are found in a log are those that its lines name. -/
theorem sifted_architectures {log : String} {as : List String} :
    Sifted NamesArchitecture (lines log) as ↔ as = architectures log := by
  rw [sifted_iff fun l hl => namesArchitecture_iff (not_mem_of_mem_lines hl), architectures,
    architectureLine, Text.Pattern.search_line inline_architectureParts, List.filterMap_filterMap,
    lines]

/-- The tests that are found in a log are those that its lines report. -/
theorem sifted_entries {log : String} {es : List Entry} :
    Sifted ReportsTest (lines log) es ↔ es = entries log := by
  rw [sifted_iff fun l hl => reportsTest_iff (not_mem_of_mem_lines hl), entries, testLine,
    Text.Pattern.search_line inline_testParts, List.filterMap_filterMap, lines]

/-- **A log is read line by line.** The lines of a log decide which architectures it names and which
tests it reports, each line by itself, and these decide what the reader answers. -/
theorem reads_iff_read (version log : String) : ∃ architectures tests,
    (∀ as, Sifted NamesArchitecture (lines log) as ↔ as = architectures) ∧
    (∀ es, Sifted ReportsTest (lines log) es ↔ es = tests) ∧
    ∀ answer, Reads version architectures tests answer ↔ read version log = answer := by
  refine ⟨architectures log, entries log, fun _ => sifted_architectures, fun _ => sifted_entries,
    fun answer => ⟨read_of_reads, ?_⟩⟩
  rintro rfl
  obtain ⟨answer, h⟩ := exists_reads version (architectures log) (entries log)
  rwa [read_of_reads h]

end Testbed.Log

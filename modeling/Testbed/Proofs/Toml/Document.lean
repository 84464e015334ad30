import Mathlib.Data.List.Flatten
import Testbed.Proofs.Toml.Value
import Testbed.Toml.Document

/-!
# Documents read back

A written document is a sequence of lines, and each of them is read as one statement or as none. So
it is cut into chunks: `Spells` says of a chunk of text which statements it gives, whatever is read
behind it, and chunks are put together by `Spells.append` and `Spells.flatMap`.

* `IsBare`: a name that needs no quotes.
* `Section.Sound`, `Sound`: what makes sections a document that can be written and read back.
* `run_statement_header`, `run_statement_field`: the two kinds of statements that are written.
* `spells_document`: the statements of a whole document.
* `foldlM_sections`: what these statements define.

Headline: **`read?_document`**: the text of sound sections is read as what they are.
-/

namespace Testbed.Toml

open Text (isGap)
open Reader

variable {rest : List Char} {n : Nat} {name : String}

/-! ## Keys -/

/-- A name that is written without quotes. -/
def IsBare (name : String) : Prop := name ≠ "" ∧ name.toList.all isNameChar = true

instance (name : String) : Decidable (IsBare name) := inferInstanceAs (Decidable (_ ∧ _))

theorem IsBare.exists_cons (h : IsBare name) : ∃ c cs, name.toList = c :: cs ∧
    ∀ d, isNameChar d = false → c ≠ d := by
  obtain ⟨c, cs, hcs⟩ := List.exists_cons_of_ne_nil fun hnil => h.1 (String.toList_inj.mp hnil)
  refine ⟨c, cs, hcs, ?_⟩
  rintro d hd rfl
  rw [List.all_eq_true.mp h.2 c (by simp [hcs])] at hd
  cases hd

theorem run_name (h : IsBare name) (hrest : ∀ d ∈ rest.head?, isNameChar d = false) :
    Toml.name.run (name.toList ++ rest) = some (name, rest) := by
  have htake := run_takeWhile (List.all_eq_true.mp h.2) hrest
  obtain ⟨c, cs, hcs, hne⟩ := h.exists_cons
  have hdouble := hne '"' (by decide)
  have hsingle := hne '\'' (by decide)
  have hname : String.ofList (c :: cs) = name := by rw [← hcs, String.ofList_toList]
  rw [hcs] at htake ⊢
  rw [Toml.name, StateT.run_bind, run_next?]
  simp only [List.cons_append, List.head?_cons, Option.bind_eq_bind, Option.bind_some]
  split <;> simp_all [StateT.run_bind]

/-- A bare name is a key by itself, unless there is a point behind it. -/
theorem run_key {after : List Char} (h : IsBare name)
    (hrest : ∀ d ∈ rest.head?, isNameChar d = false) (hgap : skipGap.run rest = some ((), after))
    (hpoint : after.head? ≠ some '.') :
    key.run (name.toList ++ rest) = some (⟨[], name⟩, after) := by
  have hfront : skipGap.run (name.toList ++ rest) = some ((), name.toList ++ rest) := by
    obtain ⟨c, cs, hcs, hne⟩ := h.exists_cons
    refine run_skipGap fun d hd => ?_
    obtain rfl : c = d := by simpa [hcs] using hd
    simp [isGap, hne ' ' (by decide), hne '\t' (by decide)]
  have hnames : (names (depthLimit - 1)).run (name.toList ++ rest) = some ([name], after) := by
    change (names (78 + 1)).run _ = _
    rw [names, StateT.run_bind, hfront]
    simp [StateT.run_bind, run_name h hrest, hgap, run_takeIf_of_ne hpoint]
  rw [key, StateT.run_bind, hnames]
  rfl

/-! ## Statements -/

theorem run_lineEnd : lineEnd.run ('\n' :: rest) = some ((), rest) := by
  have hgap : skipGap.run ('\n' :: rest) = some ((), '\n' :: rest) := run_skipGap (by simp [isGap])
  have hcomment : (takeIf '#').run ('\n' :: rest) = some (false, '\n' :: rest) :=
    run_takeIf_of_ne (by simp)
  rw [lineEnd, StateT.run_bind, hgap]
  simp [StateT.run_bind, hcomment, afterLineEnd?]

theorem IsBare.run_bracket (h : IsBare name) (rest : List Char) :
    (takeIf '[').run (name.toList ++ rest) = some (false, name.toList ++ rest) := by
  obtain ⟨c, cs, hcs, hne⟩ := h.exists_cons
  exact run_takeIf_of_ne (by simp [hcs, hne '[' (by decide)])

theorem run_statement_header (h : IsBare name) (rest : List Char) :
    (statement n).run ('[' :: (name.toList ++ ']' :: '\n' :: rest)) =
      some (.openTable ⟨[], name⟩, rest) := by
  have hkey : key.run (name.toList ++ ']' :: '\n' :: rest) =
      some (⟨[], name⟩, ']' :: '\n' :: rest) :=
    run_key h (by simp; decide) (run_skipGap (by simp [isGap])) (by simp)
  rw [statement, StateT.run_bind, run_takeIf]
  simp [StateT.run_bind, h.run_bracket, hkey, run_lineEnd]

theorem run_statement_field {v : Plain} (h : IsBare name) (hv : v.Fits)
    (hn : v.text.toList.length ≤ n) (rest : List Char) :
    (statement n).run (name.toList ++ (' ' :: '=' :: ' ' :: (v.text.toList ++ '\n' :: rest))) =
      some (.put ⟨[], name⟩ v.item, rest) := by
  have hkey : key.run (name.toList ++ (' ' :: '=' :: ' ' :: (v.text.toList ++ '\n' :: rest))) =
      some (⟨[], name⟩, '=' :: ' ' :: (v.text.toList ++ '\n' :: rest)) :=
    run_key h (by simp; decide) (run_skipGap_space.trans (run_skipGap (by simp [isGap]))) (by simp)
  have hgap : skipGap.run (' ' :: (v.text.toList ++ '\n' :: rest)) =
      some ((), v.text.toList ++ '\n' :: rest) := run_skipGap (v.isGap_head? _)
  have hvalue : (value (depthLimit - 1) n).run (v.text.toList ++ '\n' :: rest) =
      some (v.item, '\n' :: rest) := run_value hv 78 n hn (.line rest)
  rw [statement, StateT.run_bind, h.run_bracket]
  simp [StateT.run_bind, hkey, hgap, hvalue, run_lineEnd]

/-! ## Chunks of text -/

/-- The statements that a chunk of text gives: they come first when it is read, whatever comes
behind it, and there are no more lines than characters. -/
def Spells (n : Nat) (text : List Char) (written : List Statement) : Prop :=
  ∃ count ≤ text.length, ∀ lines rest, (statements n (lines + count)).run (text ++ rest) =
    ((statements n lines).run rest).map fun (more, rest) => (written ++ more, rest)

namespace Spells

variable {text more : List Char} {written others : List Statement}

theorem nil : Spells n [] [] :=
  ⟨0, Nat.le_refl 0, fun lines rest => by simp⟩

theorem append (h : Spells n text written) (h' : Spells n more others) :
    Spells n (text ++ more) (written ++ others) := by
  obtain ⟨count, hcount, hrun⟩ := h
  obtain ⟨count', hcount', hrun'⟩ := h'
  refine ⟨count' + count, by rw [List.length_append]; omega, fun lines rest => ?_⟩
  rw [List.append_assoc, ← Nat.add_assoc, hrun, hrun', Option.map_map]
  simp [Function.comp_def]

theorem flatMap {α : Type} {xs : List α} {f : α → List Char} {g : α → List Statement}
    (h : ∀ x ∈ xs, Spells n (f x) (g x)) : Spells n (xs.flatMap f) (xs.flatMap g) := by
  induction xs with
  | nil => exact nil
  | cons x xs ih =>
    obtain ⟨hx, hxs⟩ := List.forall_mem_cons.mp h
    exact hx.append (ih hxs)

/-- An empty line says nothing. -/
theorem blank : Spells n ['\n'] [] := by
  refine ⟨1, Nat.le_refl 1, fun lines rest => ?_⟩
  rw [statements, StateT.run_bind, run_skipGap (by simp [isGap])]
  simp [StateT.run_bind, run_lineEnd]

/-- What begins with another character than a gap, a comment or a line end is a statement. -/
theorem statement {c : Char} {cs : List Char} {s : Statement}
    (hc : c ∉ [' ', '\t', '#', '\n', '\r'])
    (h : ∀ rest, (Toml.statement n).run (c :: (cs ++ rest)) = some (s, rest)) :
    Spells n (c :: cs) [s] := by
  refine ⟨1, by simp, fun lines rest => ?_⟩
  rw [statements, StateT.run_bind, List.cons_append, run_skipGap (by simp_all [isGap])]
  simp only [List.mem_cons, List.not_mem_nil, or_false, not_or] at hc
  simp [StateT.run_bind, hc, h]

end Spells

/-- A text that spells statements, without a byte order mark in front, is read as these. -/
theorem readStatements?_eq {text : String} {written : List Statement}
    (hmark : text.toList.head? ≠ some '\ufeff')
    (h : Spells (text.toList.length + 1) text.toList written) :
    readStatements? text = some written := by
  obtain ⟨count, hcount, hrun⟩ := h
  obtain ⟨lines, hlines⟩ : ∃ lines, text.toList.length + 1 = lines + 1 + count :=
    ⟨text.toList.length - count, by omega⟩
  have hend : (statements (text.toList.length + 1) (lines + 1)).run [] = some ([], []) := by
    rw [statements, StateT.run_bind, run_skipGap (by simp)]
    simp [StateT.run_bind]
  have hread := hrun (lines + 1) []
  rw [hend, ← hlines, List.append_nil] at hread
  unfold readStatements?
  simp only
  split
  · simp_all
  · rw [hread]
    simp

/-! ## The text of a document -/

/-- The line of a field. -/
def fieldLine (field : String × Plain) : String := field.1 ++ " = " ++ field.2.text ++ "\n"

/-- The statement of a field. -/
def fieldStatement (field : String × Plain) : Statement := .put ⟨[], field.1⟩ field.2.item

theorem spells_field {field : String × Plain} (h : IsBare field.1) (hv : field.2.Fits)
    (hn : (fieldLine field).toList.length ≤ n) :
    Spells n (fieldLine field).toList [fieldStatement field] := by
  obtain ⟨name, v⟩ := field
  have hlength : v.text.toList.length ≤ n := by
    rw [fieldLine, String.toList_append, String.toList_append, List.length_append,
      List.length_append] at hn
    exact Nat.le_trans (Nat.le_trans (Nat.le_add_left _ _) (Nat.le_add_right _ _)) hn
  obtain ⟨c, cs, hcs, hne⟩ := h.exists_cons
  have htext : (fieldLine (name, v)).toList =
      c :: (cs ++ ' ' :: '=' :: ' ' :: (v.text.toList ++ ['\n'])) := by
    simp [fieldLine, hcs]
  rw [htext]
  refine Spells.statement ?_ fun rest => ?_
  · simp [hne ' ' (by decide), hne '\t' (by decide), hne '#' (by decide), hne '\n' (by decide),
      hne '\r' (by decide)]
  · have hrun := run_statement_field h hv hlength rest
    rw [hcs] at hrun
    simpa [fieldStatement] using hrun

namespace Section

/-- The lines of a section. -/
def text (s : Section) : String := "[" ++ s.name ++ "]\n" ++ String.join (s.fields.map fieldLine)

/-- The statements of a section. -/
def statements (s : Section) : List Statement :=
  .openTable ⟨[], s.name⟩ :: s.fields.map fieldStatement

/-- What makes a section one that can be written and read back: names without quotes, none of them
for two fields, and values that can be written. -/
structure Sound (s : Section) : Prop where
  bare : IsBare s.name
  fields_bare : ∀ field ∈ s.fields, IsBare field.1
  fields_fit : ∀ field ∈ s.fields, field.2.Fits
  fields_nodup : (s.fields.map Prod.fst).Nodup

theorem toList_text (s : Section) : s.text.toList =
    ('[' :: (s.name.toList ++ [']', '\n'])) ++ s.fields.flatMap (String.toList ∘ fieldLine) := by
  simp [text, String.toList_join, List.flatMap_map, Function.comp_def]

theorem Sound.spells {s : Section} (h : s.Sound) (hn : s.text.toList.length ≤ n) :
    Spells n s.text.toList s.statements := by
  have hheader : Spells n ('[' :: (s.name.toList ++ [']', '\n'])) [.openTable ⟨[], s.name⟩] :=
    Spells.statement (by decide) fun rest => by simpa using run_statement_header h.bare rest
  have hfields : Spells n (s.fields.flatMap (String.toList ∘ fieldLine))
      (s.fields.flatMap fun field => [fieldStatement field]) := by
    refine Spells.flatMap fun field hfield => ?_
    have hline : (fieldLine field).toList.length ≤ s.text.toList.length := by
      have hsub := (List.singleton_sublist.mpr hfield).flatMap (String.toList ∘ fieldLine)
      have hle := hsub.length_le
      rw [List.flatMap_singleton, Function.comp_apply] at hle
      rw [toList_text, List.length_append]
      omega
    exact spells_field (h.fields_bare field hfield) (h.fields_fit field hfield)
      (Nat.le_trans hline hn)
  rw [toList_text, statements, ← List.singleton_append, List.map_eq_flatMap]
  exact hheader.append hfields

end Section

/-- The text of a document of sections. -/
def documentText (sections : List Section) : String :=
  String.intercalate "\n" (sections.map Section.text)

variable {sections : List Section}

theorem spells_document (h : ∀ s ∈ sections, s.Sound)
    (hn : (documentText sections).toList.length ≤ n) :
    Spells n (documentText sections).toList (sections.flatMap Section.statements) := by
  induction sections with
  | nil => exact Spells.nil
  | cons s sections ih =>
    obtain ⟨hs, hsections⟩ := List.forall_mem_cons.mp h
    cases sections with
    | nil => simpa [documentText] using hs.spells (by simpa [documentText] using hn)
    | cons t sections =>
      have htext : (documentText (s :: t :: sections)).toList =
          s.text.toList ++ (['\n'] ++ (documentText (t :: sections)).toList) := by
        simp [documentText, String.intercalate_cons_of_ne_nil]
      rw [htext] at hn ⊢
      rw [List.length_append, List.length_append] at hn
      exact (hs.spells (by omega)).append (Spells.blank.append (ih hsections (by omega)))

/-! ## What the statements define -/

section Definitions

variable {document inner : Entries} {field : String} {item : Item}

theorem lookup_eq_none (h : name ∉ document.map Prod.fst) : document.lookup name = none := by
  rw [List.lookup_eq_none_iff]
  rintro ⟨other, item⟩ hmem
  simp only [bne_iff_ne]
  rintro rfl
  exact h (List.mem_map_of_mem hmem)

theorem set_append {old : Item} (h : name ∉ document.map Prod.fst) :
    Entries.set (document ++ [(name, old)]) name item = document ++ [(name, item)] := by
  have hdocument : Entries.set document name item = document.map id :=
    List.map_congr_left fun entry hmem => by
      have hother : entry.1 ≠ name := fun e => h (e ▸ List.mem_map_of_mem hmem)
      simp [hother]
  rw [Entries.set] at hdocument ⊢
  rw [List.map_append, hdocument]
  simp

theorem openTable_eq (h : name ∉ document.map Prod.fst) :
    document.openTable ⟨[], name⟩ = some (document ++ [(name, .table .header [])]) := by
  simp [Entries.openTable, Entries.descend, lookup_eq_none h]

theorem putUnder_eq (hname : name ∉ document.map Prod.fst) (hfield : field ∉ inner.map Prod.fst) :
    Entries.putUnder [name] ⟨[], field⟩ item (document ++ [(name, .table .header inner)]) =
      some (document ++ [(name, .table .header (inner ++ [(field, item)]))]) := by
  have hlookup : (document ++ [(name, Item.table .header inner)]).lookup name =
      some (.table .header inner) := by
    rw [List.lookup_append, lookup_eq_none hname]
    simp
  rw [Entries.putUnder, Entries.descend, hlookup]
  simp [Entries.descend, Entries.put, Entries.add?, lookup_eq_none hfield, set_append hname]

/-- Each field is added to the table that was opened last. -/
theorem foldlM_fields (hname : name ∉ document.map Prod.fst) (fields : List (String × Plain))
    (hnodup : (inner.map Prod.fst ++ fields.map Prod.fst).Nodup) :
    (fields.map fieldStatement).foldlM Draft.add
        ⟨document ++ [(name, .table .header inner)], [name]⟩ =
      some ⟨document ++ [(name, .table .header
        (inner ++ fields.map fun (field, value) => (field, value.item)))], [name]⟩ := by
  induction fields generalizing inner with
  | nil => simp
  | cons first fields ih =>
    obtain ⟨field, v⟩ := first
    have hfield : field ∉ inner.map Prod.fst := fun hmem =>
      (List.nodup_append.mp hnodup).2.2 field hmem field (by simp) rfl
    have hfields := @ih (inner ++ [(field, v.item)]) (by simpa using hnodup)
    rw [List.map_cons, List.foldlM_cons, fieldStatement, Draft.add, putUnder_eq hname hfield]
    simpa using hfields

/-- Each section is added behind those before it. -/
theorem foldlM_sections (header : List String) (hsound : ∀ s ∈ sections, s.Sound)
    (hnodup : (document.map Prod.fst ++ sections.map Section.name).Nodup) :
    ∃ last, (sections.flatMap Section.statements).foldlM Draft.add ⟨document, header⟩ =
      some ⟨document ++ Entries.ofSections sections, last⟩ := by
  induction sections generalizing document header with
  | nil => exact ⟨header, by simp [Entries.ofSections]⟩
  | cons s sections ih =>
    obtain ⟨hs, hsections⟩ := List.forall_mem_cons.mp hsound
    have hname : s.name ∉ document.map Prod.fst := fun hmem =>
      (List.nodup_append.mp hnodup).2.2 s.name hmem s.name (by simp) rfl
    obtain ⟨last, hlast⟩ := @ih (document ++ Entries.ofSections [s]) [s.name] hsections
      (by simpa [Entries.ofSections] using hnodup)
    have hmore : document ++ Entries.ofSections (s :: sections) =
        document ++ Entries.ofSections [s] ++ Entries.ofSections sections := by
      simp [Entries.ofSections]
    have hfields := @foldlM_fields _ _ [] hname s.fields (by simpa using hs.fields_nodup)
    refine ⟨last, ?_⟩
    rw [List.flatMap_cons, List.foldlM_append, Section.statements, List.foldlM_cons, Draft.add,
      openTable_eq hname, hmore, ← hlast]
    simp [hfields, Entries.ofSections]

end Definitions

/-! ## Documents -/

/-- What makes sections a document that can be written and read back. -/
structure Sound (sections : List Section) : Prop where
  sections_sound : ∀ s ∈ sections, s.Sound
  names_nodup : (sections.map Section.name).Nodup

theorem mapM_eq_some_map {α β : Type} {f : α → Option β} {g : α → β} {xs : List α}
    (h : ∀ x ∈ xs, f x = some (g x)) : xs.mapM f = some (xs.map g) := by
  induction xs with
  | nil => rfl
  | cons x xs ih =>
    obtain ⟨hx, hxs⟩ := List.forall_mem_cons.mp h
    rw [List.mapM_cons, hx, ih hxs]
    rfl

theorem document?_of_sound (h : ∀ s ∈ sections, s.Sound) :
    Printer.document? sections = some (documentText sections) := by
  have hfield : ∀ s ∈ sections, ∀ field ∈ s.fields,
      Printer.field? field.1 field.2 = some (fieldLine field) := fun s hs field hfield => by
    rw [Printer.field?, Plain.value?_of_fits ((h s hs).fields_fit field hfield)]
    rfl
  have hsection : ∀ s ∈ sections, Printer.section? s = some s.text := fun s hs => by
    rw [Printer.section?, mapM_eq_some_map (hfield s hs)]
    rfl
  rw [Printer.document?, mapM_eq_some_map hsection]
  rfl

/-- What may stand behind the text of a document: nothing, or one more line end. -/
def endings : List String := ["", "\n"]

theorem head?_documentText {ending : String} (hending : ending ∈ endings)
    (sections : List Section) :
    (documentText sections ++ ending).toList.head? ≠ some '\ufeff' := by
  cases sections with
  | nil =>
    revert ending
    decide
  | cons s sections =>
    cases sections <;> simp [documentText, Section.text, String.intercalate_cons_of_ne_nil]

theorem spells_ended (h : ∀ s ∈ sections, s.Sound) {ending : String} (hending : ending ∈ endings)
    (hn : (documentText sections ++ ending).toList.length ≤ n) :
    Spells n (documentText sections ++ ending).toList (sections.flatMap Section.statements) := by
  have hlength : (documentText sections).toList.length ≤ n := by
    rw [String.toList_append, List.length_append] at hn
    omega
  have hdocument := spells_document h hlength
  obtain rfl | rfl : ending = "" ∨ ending = "\n" := by simpa [endings] using hending
  · simpa using hdocument
  · simpa using hdocument.append Spells.blank

/-- **Documents read back**: sound sections can be written, and their text is read as what they are,
with a further line end or without. -/
theorem read?_document (h : Sound sections) :
    ∃ text, Printer.document? sections = some text ∧
      ∀ ending ∈ endings, Entries.read? (text ++ ending) = some (Entries.ofSections sections) := by
  refine ⟨documentText sections, document?_of_sound h.sections_sound, fun ending hending => ?_⟩
  obtain ⟨last, hlast⟩ := @foldlM_sections _ [] [] h.sections_sound (by simpa using h.names_nodup)
  rw [Entries.read?, readStatements?_eq (head?_documentText hending sections)
    (spells_ended h.sections_sound hending (Nat.le_succ _))]
  change (List.foldlM Draft.add ⟨[], []⟩ _).bind _ = _
  rw [hlast]
  rfl

end Testbed.Toml

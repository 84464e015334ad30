import Mathlib.Data.List.Forall2
import Testbed.Report.Notifier
import Testbed.Text.Blank

/-!
# What the summary table tells

The table is meant for the eye: columns are filled up with spaces, and nothing marks where a column
ends. Still it tells all that it shows, if the names in it hold no blanks.

* `Shown`: what a row shows of a message.
* `InColumns`: a row, column by column.
* `readRow?`: what a row is read as.
* `summary`: the lines below the rows.
* `textOf`: lines as they stand in a file.

Results:
* `inColumns_row`: the row of a message is in columns, and nothing is cut.
* `readRow?_of_inColumns`: what is in columns is read back.
* `table_eq`: the lines of a table.
* `count_all`: the counts of the statuses make up the number of messages.
* `fileText_eq`: the content of a file of lines.

Headline: **`table_tells`**: all of it, for all messages.
-/

namespace Testbed

namespace Text

/-- A text without blanks. -/
def NoBlank (s : String) : Prop := ∀ c ∈ s.toList, isBlank c = false

instance (s : String) : Decidable (NoBlank s) :=
  decidable_of_iff ((s.toList.all fun c => !isBlank c) = true) (by simp [NoBlank])

theorem NoBlank.append {s s' : String} (h : NoBlank s) (h' : NoBlank s') : NoBlank (s ++ s') := by
  intro c hc
  rw [String.toList_append, List.mem_append] at hc
  rcases hc with hc | hc
  · exact h c hc
  · exact h' c hc

/-- A text of spaces. -/
def Spaces (s : String) : Prop := ∀ c ∈ s.toList, c = ' '

theorem spaces_replicate (n : Nat) : Spaces (String.ofList (List.replicate n ' ')) := by
  intro c hc
  rw [String.toList_ofList] at hc
  exact List.eq_of_mem_replicate hc

end Text

namespace Report

open Text (NoBlank Spaces)

/-! ## Rows -/

/-- What a row shows of a message. -/
structure Shown where
  fullName : String
  status : Status
  text : String
  deriving Repr, DecidableEq

/-- What is shown of a message: suite and test, its status and its text. -/
def Message.shown (m : Message) : Shown := ⟨m.suite ++ "." ++ m.name, m.status, m.message⟩

/-- **A row in columns**: the full name at the right end of a column of 50 characters, or of more if
the name is longer; the status at the left end of a column of 8; and the text. -/
def InColumns (shown : Shown) (row : String) : Prop :=
  ∃ left right, row = left ++ shown.fullName ++ ": " ++ shown.status.name ++ right ++ " " ++ shown.text ∧
    Spaces left ∧ Spaces right ∧ (left ++ shown.fullName).length = max 50 shown.fullName.length ∧
    (shown.status.name ++ right).length = 8

/-- What a row is read as: spaces are passed over, the name ends before a colon and a space, and then
the columns are counted off. -/
def readRow? (row : String) : Option Shown :=
  let cs := row.toList.dropWhile (· == ' ')
  let rest := (cs.dropWhile (· != ' ')).drop 1
  (Status.ofName? (String.ofList ((rest.take 8).takeWhile (· != ' ')))).map fun status =>
    ⟨String.ofList (cs.takeWhile (· != ' ')).dropLast, status, String.ofList (rest.drop 9)⟩

variable {shown : Shown} {row : String} {messages : List Message}

theorem Message.shown_fullName (m : Message) : m.shown.fullName = m.fullName := rfl

theorem inColumns_row (m : Message) : InColumns m.shown (Report.row m) := by
  unfold InColumns
  rw [m.shown_fullName]
  refine ⟨_, _, ?_, Text.spaces_replicate (50 - m.fullName.length),
    Text.spaces_replicate (8 - m.status.name.length), ?_, ?_⟩
  · unfold Report.row padLeft padRight Message.shown
    simp only [String.append_assoc]
  · simp only [String.length_append, String.length_ofList, List.length_replicate]
    omega
  · have hstatus : m.status.name.length ≤ 8 := by cases m.status <;> decide
    simp only [String.length_append, String.length_ofList, List.length_replicate, Message.shown]
    omega

theorem not_space_of_noBlank {s : String} (h : NoBlank s) : ∀ c ∈ s.toList, (c != ' ') = true := by
  intro c hc
  have hne : c ≠ ' ' := by
    rintro rfl
    exact absurd (h ' ' hc) (by decide)
  simpa using hne

/-- **What is in columns is read back**, if the name holds no blank. -/
theorem readRow?_of_inColumns (h : InColumns shown row) (hname : NoBlank shown.fullName) :
    readRow? row = some shown := by
  obtain ⟨left, right, rfl, hleft, hright, -, hwidth⟩ := h
  obtain ⟨fullName, status, text⟩ := shown
  have hlabel : ∀ c ∈ fullName.toList ++ [':'], (c != ' ') = true := by
    intro c hc
    rcases List.mem_append.mp hc with hc | hc
    · exact not_space_of_noBlank hname c hc
    · rw [List.mem_singleton.mp hc]
      decide
  have hcolumn : (status.name.toList ++ right.toList).length = 8 := by
    rwa [← String.toList_append, String.length_toList]
  have hspaces : right.toList.takeWhile (· != ' ') = [] := by
    cases hcs : right.toList with
    | nil => rfl
    | cons c cs =>
      have hc : c = ' ' := hright c (by rw [hcs]; exact List.mem_cons_self)
      rw [List.takeWhile_cons_of_neg (by simp [hc])]
  have hstatus : (status.name.toList ++ right.toList).takeWhile (· != ' ') = status.name.toList := by
    rw [List.takeWhile_append_of_pos (List.all_eq_true.mp (by cases status <;> decide)), hspaces, List.append_nil]
  have htext : ((status.name.toList ++ right.toList) ++ ' ' :: text.toList).drop 9 = text.toList := by
    rw [List.append_cons]
    exact List.drop_left' (by rw [List.length_append, hcolumn]; rfl)
  have hrow : (left ++ fullName ++ ": " ++ status.name ++ right ++ " " ++ text).toList.dropWhile (· == ' ') =
      (fullName.toList ++ [':']) ++
        ' ' :: ((status.name.toList ++ right.toList) ++ ' ' :: text.toList) := by
    have htext : (left ++ fullName ++ ": " ++ status.name ++ right ++ " " ++ text).toList =
        left.toList ++ ((fullName.toList ++ [':']) ++
          ' ' :: ((status.name.toList ++ right.toList) ++ ' ' :: text.toList)) := by
      simp
    rw [htext, List.dropWhile_append_of_pos fun c hc => by simp [hleft c hc]]
    obtain ⟨c, cs, hcons⟩ := List.exists_cons_of_ne_nil (l := fullName.toList ++ [':']) (by simp)
    have hc := hlabel c (by rw [hcons]; exact List.mem_cons_self)
    rw [hcons, List.cons_append, List.dropWhile_cons_of_neg (by simpa using hc)]
  unfold readRow?
  simp only [hrow]
  rw [List.takeWhile_append_of_pos hlabel, List.dropWhile_append_of_pos hlabel,
    List.takeWhile_cons_of_neg (by decide), List.dropWhile_cons_of_neg (by decide), List.append_nil,
    List.dropLast_concat, List.drop_one, List.tail_cons, List.take_left' hcolumn, hstatus, htext]
  simp only [String.ofList_toList, Status.ofName?_name, Option.map_some]

/-- Rows that look alike tell the same. -/
theorem map_shown_of_map_row {messages messages' : List Message}
    (h : ∀ m ∈ messages ++ messages', NoBlank m.fullName)
    (hrows : messages.map Report.row = messages'.map Report.row) :
    messages.map Message.shown = messages'.map Message.shown := by
  have hread : ∀ ms : List Message, (∀ m ∈ ms, NoBlank m.fullName) →
      (ms.map Report.row).map readRow? = (ms.map Message.shown).map some := by
    intro ms hms
    rw [List.map_map, List.map_map]
    refine List.map_congr_left fun m hm => ?_
    have hread : readRow? (Report.row m) = some m.shown :=
      readRow?_of_inColumns (inColumns_row m) (hms m hm)
    simpa only [Function.comp_apply] using hread
  obtain ⟨hmessages, hmessages'⟩ := List.forall_mem_append.mp h
  have hsome := hread messages hmessages
  rw [hrows, hread messages' hmessages'] at hsome
  exact (List.map_injective_iff.mpr (fun _ _ => Option.some.inj) hsome).symm

/-! ## The lines below the rows -/

/-- The lines below the rows: the number of messages in all, and by status. -/
def summary (total queued passed failed skipped : Nat) : List String :=
  ["test result summary", "    TOTAL    : " ++ toString total, "    QUEUED   : " ++ toString queued,
    "    PASSED   : " ++ toString passed, "    FAILED   : " ++ toString failed,
    "    SKIPPED  : " ++ toString skipped]

theorem table_eq (messages : List Message) : table messages =
    rule :: messages.map Report.row ++ summary messages.length (count messages .queued)
      (count messages .passed) (count messages .failed) (count messages .skipped) := by
  have hheads : Status.all.map (fun status => "    " ++ padRight 9 status.name ++ ": ") =
      ["    QUEUED   : ", "    PASSED   : ", "    FAILED   : ", "    SKIPPED  : "] := by
    decide +kernel
  simp only [Status.all, List.map_cons, List.map_nil, List.cons.injEq, and_true] at hheads
  obtain ⟨hqueued, hpassed, hfailed, hskipped⟩ := hheads
  simp only [table, Status.all, List.map_cons, List.map_nil, countLine, hqueued, hpassed, hfailed, hskipped,
    summary, List.append_assoc, List.cons_append, List.nil_append]

/-- **Each message is counted once.** -/
theorem count_all (messages : List Message) : count messages .queued + count messages .passed +
    count messages .failed + count messages .skipped = messages.length := by
  induction messages with
  | nil => rfl
  | cons m messages ih =>
    unfold count at ih ⊢
    rw [List.length_cons, ← ih]
    simp only [List.countP_cons]
    cases m.status <;> simp <;> omega

theorem length_table (messages : List Message) : (table messages).length = messages.length + 7 := by
  rw [table_eq]
  simp [summary]

theorem map_row_of_table {messages messages' : List Message} (h : table messages = table messages') :
    messages.map Report.row = messages'.map Report.row := by
  have hlength : messages.length = messages'.length := by
    have hlines := congrArg List.length h
    rw [length_table, length_table] at hlines
    omega
  rw [table_eq, table_eq, List.cons_append, List.cons_append, List.cons.injEq] at h
  exact (List.append_inj h.2 (by simpa using hlength)).1

/-! ## Lines in a file -/

/-- **Lines as they stand in a file**: one after the other, each with a line feed behind it. -/
def textOf : List String → String
  | [] => ""
  | line :: lines => line ++ "\n" ++ textOf lines

theorem fileText_eq (lines : List String) : Notifier.fileText lines = textOf lines := by
  unfold Notifier.fileText
  induction lines with
  | nil => rfl
  | cons line lines ih => rw [List.map_cons, String.join_cons, ih, textOf]

/-! ## The whole table -/

/-- **The table tells what it shows.** A table of some messages has seven lines more than there are
messages: a rule of 40 characters, a row for each message in order, and the counts, by which each message has one
status. A row in columns is read back if the name in it holds no blank, however long it is. So where
no suite and no test has a blank in its name, tables that look alike show the same full names, statuses
and texts, row by row. -/
theorem table_tells :
    (∀ messages : List Message, ∃ rows queued passed failed skipped,
      table messages = String.ofList (List.replicate 40 '_') :: rows ++
        ["test result summary", "    TOTAL    : " ++ toString messages.length,
          "    QUEUED   : " ++ toString queued, "    PASSED   : " ++ toString passed,
          "    FAILED   : " ++ toString failed, "    SKIPPED  : " ++ toString skipped] ∧
      (table messages).length = messages.length + 7 ∧
      List.Forall₂ (fun m row => InColumns m.shown row) messages rows ∧
      queued = messages.countP (·.status = .queued) ∧
      passed = messages.countP (·.status = .passed) ∧
      failed = messages.countP (·.status = .failed) ∧
      skipped = messages.countP (·.status = .skipped) ∧
      queued + passed + failed + skipped = messages.length) ∧
    (∀ row shown, InColumns shown row → NoBlank shown.fullName → readRow? row = some shown) ∧
    ∀ messages messages' : List Message,
      (∀ m ∈ messages ++ messages', NoBlank m.suite ∧ NoBlank m.name) →
      table messages = table messages' → messages.map Message.shown = messages'.map Message.shown := by
  refine ⟨?_, fun row shown => readRow?_of_inColumns, ?_⟩
  · intro messages
    refine ⟨messages.map Report.row, _, _, _, _, table_eq messages, length_table messages, ?_, rfl, rfl, rfl,
      rfl, count_all messages⟩
    rw [List.forall₂_map_right_iff]
    exact List.forall₂_same.mpr fun m _ => inColumns_row m
  · intro messages messages' hnames h
    have hfull : ∀ m ∈ messages ++ messages', NoBlank m.fullName := by
      intro m hm
      obtain ⟨hsuite, hname⟩ := hnames m hm
      exact (hsuite.append (by decide)).append hname
    exact map_shown_of_map_row hfull (map_row_of_table h)

end Report

end Testbed

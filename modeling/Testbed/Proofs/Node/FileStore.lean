import Testbed.Proofs.Node.Commands

/-!
# A node that keeps files

A world to run commands in: it keeps files, and does to them what the programs do that a node is asked
for. What any other program does is left open. A command may also fail and leave everything as it was.

* `Store`: the files, and `Store.AgreeBut`: stores that differ in some files only.
* `Machine`: what programs do.
* `Schedule`: which commands fail. A schedule knows all that has been asked and answered, and the files,
  but for some that are hidden from it.
* `Machine.reliable`: the world, if nothing fails.
* `Machine.execute`: the world, with a log of what has reached it.

Results:
* `act_remove`, `act_look`, `act_write`, `act_read`: what is done for the known commands, however the
  path is spelled; `act_program`: any other program is left to the machine.
* `Store.AgreeBut.put`: removing a file makes stores agree in it.
-/

namespace Testbed.Node

open Shell (quote understood)

/-! ## Files -/

/-- The files of a node: the content of each path that one is at. -/
abbrev Store := String → Option String

namespace Store

/-- The same files, but for those at one path. -/
def put (store : Store) (path : String) (content : Option String) : Store := fun p =>
  if p = path then content else store p

/-- The same files without some. -/
def without (store : Store) (files : List String) : Store := fun p =>
  if p ∈ files then none else store p

/-- Whether stores differ in nothing but some files. -/
def AgreeBut (files : List String) (store store' : Store) : Prop :=
  ∀ path ∉ files, store path = store' path

variable {files hidden : List String} {path : String} {store store' : Store}

theorem AgreeBut.eq (h : AgreeBut [] store store') : store = store' :=
  funext fun path => h path List.not_mem_nil

theorem AgreeBut.without (h : AgreeBut files store store') (hhidden : files ⊆ hidden) :
    store.without hidden = store'.without hidden := by
  funext path
  unfold Store.without
  split
  · rfl
  · rename_i hpath
    exact h path fun hmem => hpath (hhidden hmem)

/-- What is put at a path is the same in both stores. -/
theorem AgreeBut.put (h : AgreeBut (path :: files) store store') (content : Option String) :
    AgreeBut files (store.put path content) (store'.put path content) := by
  intro p hp
  unfold Store.put
  split
  · rfl
  · rename_i hne
    exact h p fun hmem => (List.mem_cons.mp hmem).elim hne hp

end Store

/-! ## Programs -/

/-- What is done by programs that are not known, and what `cat` says of a file that is missing. -/
structure Machine where
  program : String → Store → Output × Store
  complaint : String → String

/-- What comes of a request, and of the files. A line that is not understood as one of the known
commands is left to the programs. -/
def Machine.act (m : Machine) (r : Request) (store : Store) : Output × Store :=
  match understood r.elevated r.line with
  | some (⟨["rm", "-f", path], []⟩, none) => (⟨0, "", ""⟩, store.put path none)
  | some (⟨["printf", "%s", content], [path]⟩, none) => (⟨0, "", ""⟩, store.put path (some content))
  | some (⟨["test", "-e", path], []⟩, none) =>
    (⟨if (store path).isSome then 0 else 1, "", ""⟩, store)
  | some (⟨["cat", path], []⟩, none) =>
    match store path with
    | some content => (⟨0, content, ""⟩, store)
    | none => (⟨1, "", m.complaint path⟩, store)
  | _ => m.program r.line store

variable {m : Machine} {path : String} {elevated : Bool} {store : Store}

theorem act_remove : m.act (change ("rm -f " ++ quote path) elevated) store =
    (⟨0, "", ""⟩, store.put path none) := by
  have hline := Shell.understood_line (change ("rm -f " ++ quote path) elevated)
  rw [Machine.act, hline.trans (Shell.reading_spelled "rm" (by decide) ["-f", path])]
  rfl

theorem act_look : m.act (Plan.probeRequest path elevated) store =
    (⟨if (store path).isSome then 0 else 1, "", ""⟩, store) := by
  have hline := Shell.understood_line (Plan.probeRequest path elevated)
  rw [Machine.act, hline.trans (Shell.reading_spelled "test" (by decide) ["-e", path])]
  rfl

theorem act_write {content : String} :
    m.act (change ("printf '%s' " ++ quote content ++ " > " ++ quote path) elevated) store =
      (⟨0, "", ""⟩, store.put path (some content)) := by
  have hline := Shell.understood_line
    (change ("printf '%s' " ++ quote content ++ " > " ++ quote path) elevated)
  rw [Machine.act, hline.trans (Shell.reading_spelled_into "printf" (by decide) ["%s", content] path)]
  rfl

theorem act_read {forced : Bool} :
    m.act ⟨"cat " ++ quote path, elevated, forced, none, none⟩ store =
      match store path with
      | some content => (⟨0, content, ""⟩, store)
      | none => (⟨1, "", m.complaint path⟩, store) := by
  have hline := Shell.understood_line ⟨"cat " ++ quote path, elevated, forced, none, none⟩
  rw [Machine.act, hline.trans (Shell.reading_spelled "cat" (by decide) [path])]
  rfl

/-- A program with a path of its own is none of the known ones. -/
theorem act_program {r : Request} {name : String} {words : List String}
    (hline : understood r.elevated r.line = some (⟨name :: words, []⟩, none))
    (hname : name.toList.head? = some '/') : m.act r store = m.program r.line store := by
  have hother : ∀ known ∈ ["rm", "printf", "test", "cat"], name ≠ known := by
    rintro known hknown rfl
    have hheads : ∀ known ∈ ["rm", "printf", "test", "cat"], known.toList.head? ≠ some '/' := by
      decide
    exact hheads name hknown hname
  rw [Machine.act, hline]
  split
  · rename_i h
    cases h
    exact absurd rfl (hother "rm" (by simp))
  · rename_i h
    cases h
  · rename_i h
    cases h
    exact absurd rfl (hother "test" (by simp))
  · rename_i h
    cases h
    exact absurd rfl (hother "cat" (by simp))
  · rfl

/-- A world of files in which no request fails. -/
def Machine.reliable (m : Machine) (r : Request) : StateM Store Answer := fun store =>
  (.ok (m.act r store).1, (m.act r store).2)

/-! ## Failures -/

/-- A command that has no effect: it cannot be run, or it ends with an exit code that is neither 0 nor
the 1 with which `test` says no. -/
inductive Failure where
  | lost (e : NodeError)
  | exited (output : Output) (h : output.exitCode ≠ 0 ∧ output.exitCode ≠ 1)

/-- The answer to a request whose command has no effect. -/
def Failure.answer : Failure → Answer
  | .lost e => .error e
  | .exited output _ => .ok output

/-- Which requests fail, given all that has been asked and answered before, and the files. -/
abbrev Schedule := List Exchange → Store → Request → Option Failure

/-- A world: the files, and what has been asked and answered. -/
structure World where
  store : Store
  log : List Exchange := []

/-- Carries out a request, unless it fails. The schedule does not see the hidden files. -/
def Machine.execute (m : Machine) (hidden : List String) (schedule : Schedule) (r : Request) :
    StateM World Answer := fun w =>
  match schedule w.log (w.store.without hidden) r with
  | some failure => (failure.answer, { w with log := w.log ++ [(r, failure.answer)] })
  | none =>
    let (output, store) := m.act r w.store
    (.ok output, ⟨store, w.log ++ [(r, .ok output)]⟩)

variable {hidden : List String} {schedule : Schedule} {r : Request} {w : World}

theorem execute_of_failure {failure : Failure}
    (h : schedule w.log (w.store.without hidden) r = some failure) :
    m.execute hidden schedule r w =
      (failure.answer, { w with log := w.log ++ [(r, failure.answer)] }) := by
  rw [Machine.execute, h]

theorem execute_of_none (h : schedule w.log (w.store.without hidden) r = none) :
    m.execute hidden schedule r w =
      (.ok (m.act r w.store).1, ⟨(m.act r w.store).2, w.log ++ [(r, .ok (m.act r w.store).1)]⟩) := by
  rw [Machine.execute, h]

/-- A command that has no effect is a failure where it has to end well. -/
theorem checked_failure_ne_ok {failure : Failure} {output : Output} :
    Plan.checked r failure.answer ≠ .ok output := by
  cases failure with
  | lost e => exact nofun
  | exited output' h => exact fun hok => absurd ((if_neg h.1).symm.trans hok) nofun

/-- A probe that has no effect is a failure. -/
theorem probed_failure_ne_ok {failure : Failure} {present : Bool} :
    Plan.probed path failure.answer ≠ .ok present := by
  cases failure with
  | lost e => exact nofun
  | exited output h =>
    exact fun hok => absurd (((if_neg h.1).trans (if_neg h.2)).symm.trans hok) nofun

end Testbed.Node

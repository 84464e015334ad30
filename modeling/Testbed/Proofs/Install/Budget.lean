import Testbed.Proofs.Install.Following
import Testbed.Proofs.Node.Moments
import Testbed.Proofs.Text.Stripped

/-!
# A budget that is set in pieces

Four files make up the real-time budget, and the one that tells whether a budget is set is written
last. So the attempt may break off anywhere: unless all four files are written, that one still says
that there is no budget, and the next attempt starts again.

* `share?`: the share that the guard, the file that tells, gives.
* `budget`: the files of the budget with what is written to them, in order.
* `Budgeted`: files that hold the budget; `Ready`: files that hold it, or whose guard gives no share.
* `Tuned`: what a call of the tuning comes to.
* `call`, `after`: one call, and calls one after the other, each disturbed in a way of its own.

Results:
* `readBudget_eq_ok_iff`: what is read as a share.
* `passes_tuneRealTime`: from files that are ready, a call goes only through files that are.
* `ready_after`: so do any number of calls.

Headline: **`tuneRealTime_resumes`**: whatever breaks off the calls, the guard gives a share only if
all is written, and one call that nothing disturbs writes what is missing, once and for all.
-/

namespace Testbed.Install

open Node (Exchange Machine Schedule Store World change serving)
open Plan (script)
open Shell (quote)
open Text (Stripped isBlank)
open Text.Numeral (Denotes)

/-! ## The files of the budget -/

/-- The share that the guard gives, if it holds a number. -/
def share? (store : Store) : Option Int :=
  (store budgetFile).bind fun content => (readBudget content).toOption

/-- **A share is the numeral that is shown**, blanks at its ends aside, if it has no more than 64 bits,
its sign among them. -/
theorem readBudget_eq_ok_iff {content : String} {share : Int} : readBudget content = .ok share ↔
    ∃ numeral, Stripped isBlank content.toList numeral ∧ Denotes numeral share ∧
      Int64.minValue.toInt ≤ share ∧ share ≤ Int64.maxValue.toInt := by
  have hread : readBudget content = .ok share ↔
      Text.Numeral.readSigned? 64 (Text.trim content.toList) = some share := by
    unfold readBudget
    dsimp only
    cases Text.Numeral.readSigned? 64 (Text.trim content.toList) <;> simp
  have hlow : -(Text.Numeral.bound (64 - 1) : Int) = Int64.minValue.toInt := rfl
  have hhigh : (Text.Numeral.bound (64 - 1) : Int) = Int64.maxValue.toInt + 1 := rfl
  rw [hread, Text.Numeral.readSigned?_eq_some_iff, hlow, hhigh, Int.lt_add_one_iff,
    Text.exists_stripped_iff]

/-- The files that are written before the guard. -/
def groundwork : List (String × String) :=
  [("/sys/fs/cgroup/cpu/cpu.rt_period_us", "1000000"),
    ("/sys/fs/cgroup/cpu/cpu.rt_runtime_us", "950000"),
    ("/sys/fs/cgroup/cpu/user.slice/cpu.rt_period_us", "1000000")]

/-- The files of the budget, with what is written to them: the guard comes last. -/
def budget : List (String × String) := groundwork ++ [(budgetFile, "950000")]

/-- The files after some were written. -/
def written (store : Store) (files : List (String × String)) : Store :=
  files.foldl (fun store file => store.put file.1 (some file.2)) store

/-- Files that hold the whole budget. -/
def Budgeted (store : Store) : Prop := ∀ file ∈ budget, store file.1 = some file.2

/-- Files whose guard gives no share, unless they hold the whole budget. -/
def Ready (store : Store) : Prop := share? store = some 0 ∨ Budgeted store

variable {store : Store} {files : List (String × String)}

theorem share?_of_budgeted (h : Budgeted store) : share? store = some 950000 := by
  have hguard : store budgetFile = some "950000" := h (budgetFile, "950000") (by decide +kernel)
  rw [share?, hguard]
  decide +kernel

theorem written_append (store : Store) (files more : List (String × String)) :
    written store (files ++ more) = written (written store files) more := List.foldl_append

/-- A file with another path is left as it is. -/
theorem written_of_ne {path : String} (h : ∀ file ∈ files, file.1 ≠ path) :
    written store files path = store path := by
  induction files generalizing store with
  | nil => rfl
  | cons file files ih =>
    obtain ⟨hfile, hfiles⟩ := List.forall_mem_cons.mp h
    exact (ih hfiles).trans (if_neg (Ne.symm hfile))

/-- Files with paths of their own hold what was written to them. -/
theorem written_of_mem (hpaths : (files.map (·.1)).Nodup) :
    ∀ file ∈ files, written store files file.1 = some file.2 := by
  induction files generalizing store with
  | nil => exact fun _ hfile => absurd hfile List.not_mem_nil
  | cons first files ih =>
    obtain ⟨hfirst, hpaths⟩ := List.nodup_cons.mp hpaths
    intro file hfile
    rcases List.mem_cons.mp hfile with rfl | hfile
    · have hne : ∀ later ∈ files, later.1 ≠ file.1 := fun later hlater heq =>
        hfirst (List.mem_map.mpr ⟨later, hlater, heq⟩)
      exact (written_of_ne hne).trans (if_pos rfl)
    · exact ih hpaths file hfile

theorem budgeted_written (store : Store) : Budgeted (written store budget) :=
  written_of_mem (by decide +kernel)

/-- The groundwork leaves the guard alone. -/
theorem share?_written (h : files <+: groundwork) : share? (written store files) = share? store := by
  have hapart : ∀ file ∈ groundwork, file.1 ≠ budgetFile := by decide +kernel
  rw [share?, share?, written_of_ne fun file hfile => hapart file (h.subset hfile)]

/-! ## One call -/

/-- The requests that look at the guard. -/
def looks : List Request :=
  [Plan.probeRequest budgetFile false, ⟨"cat " ++ quote budgetFile, true, true, none, none⟩]

/-- The request that writes a file of the budget. -/
def writeRequest (file : String × String) : Request :=
  change ("printf '%s' " ++ quote file.2 ++ " > " ++ quote file.1) true

/-- What a call asks that nothing disturbs: all that is written, it writes only where the guard gives
no share. -/
def agenda (store : Store) : List Request :=
  looks ++ if share? store = some 0 then budget.map writeRequest else []

/-- **What a call comes to**, on files whose guard can be read. -/
inductive Tuned (schedule : Schedule) (w : World) : Except InstallError Unit → World → Prop
  /-- A command had no effect; what was written before it is groundwork, and nothing is asked after
  it. -/
  | stopped (e : InstallError) (done : List (String × String)) (t : List Exchange)
      (disturbed : ∃ log store r, (schedule log store r).isSome) (groundwork : done <+: groundwork)
      (zero : done ≠ [] → share? w.store = some 0) (asked : t.map (·.1) <+: agenda w.store) :
      Tuned schedule w (.error e) ⟨written w.store done, w.log ++ t⟩
  /-- There is a share, so nothing is written. -/
  | idle (nonzero : share? w.store ≠ some 0) (t : List Exchange) (asked : t.map (·.1) = looks) :
      Tuned schedule w (.ok ()) ⟨w.store, w.log ++ t⟩
  /-- There is no share, and the whole budget is written. -/
  | complete (zero : share? w.store = some 0) (t : List Exchange)
      (asked : t.map (·.1) = looks ++ budget.map writeRequest) :
      Tuned schedule w (.ok ()) ⟨written w.store budget, w.log ++ t⟩

theorem tuneRealTime_eq : tuneRealTime = script budgetPlan {} >>= fun _ => pure () := by
  have hplan := @script_budgetPlan {} [] Unit (fun _ => pure ()) (pure ()) rfl fun _ => rfl
  rw [List.append_nil] at hplan
  rw [hplan, bind_pure_unit]

variable {m : Machine} {schedule : Schedule} {cache : Cache} {w : World} {facts : Facts}
  {done : List (String × String)} {t : List Exchange}

/-- A part of the budget that is not all of it is groundwork. -/
theorem prefix_groundwork {file : String × String} (h : done ++ file :: files = budget) :
    done <+: groundwork := by
  rcases List.prefix_concat_iff.mp ⟨file :: files, h⟩ with rfl | hprefix
  · exact absurd (congrArg List.length h) (by simp [budget])
  · exact hprefix

/-- What is left of the budget is written, up to the first command that has no effect. -/
theorem passes_writes (done files : List (String × String)) (t : List Exchange)
    (hfacts : facts.share = some 0) (hzero : share? w.store = some 0) (hfiles : done ++ files = budget)
    (ht : t.map (·.1) = looks ++ done.map writeRequest) :
    (script (files.map fun file => budgetEntry file.1 file.2) facts >>= fun _ =>
      (pure () : Step Unit)).run.Passes (serving (m.execute [] schedule)) (fun node => Ready node.2.store)
        (fun answer node => node.1 = cache ∧ Tuned schedule w answer node.2)
        (cache, ⟨written w.store done, w.log ++ t⟩) := by
  have hagenda : agenda w.store = looks ++ (done ++ files).map writeRequest := by
    rw [agenda, if_pos hzero, hfiles]
  induction files generalizing done t with
  | nil =>
    rw [List.append_nil] at hfiles hagenda
    subst hfiles
    exact ⟨Or.inr (budgeted_written _), rfl, .complete hzero t ht⟩
  | cons file files ih =>
    have hdone := prefix_groundwork hfiles
    have hready : Ready (written w.store done) := Or.inl ((share?_written hdone).trans hzero)
    have hentry : budgetEntry file.1 file.2 facts = some (Plan.must .node (writeRequest file) facts) :=
      Plan.Item.onlyIf_of_true (beq_iff_eq.mpr hfacts)
    have hasked : ∀ answer : Answer, (t ++ [(writeRequest file, answer)]).map (·.1) =
        looks ++ (done ++ [file]).map writeRequest := by
      intro answer
      rw [List.map_append, ht, List.map_append, List.append_assoc]
      rfl
    rw [List.append_cons] at hfiles hagenda
    rw [List.map_cons, Plan.script_cons_some hentry, bind_assoc]
    have hprefix : looks ++ (done ++ [file]).map writeRequest <+: agenda w.store :=
      ⟨files.map writeRequest, by rw [hagenda, List.append_assoc, ← List.map_append]⟩
    have hact : m.act (writeRequest file) (written w.store done) =
        (⟨0, "", ""⟩, written w.store (done ++ [file])) := by
      rw [writeRequest, Node.act_write, written_append]
      rfl
    refine Node.passes_turn_bind rfl hready (fun failure _ => Node.judge_must_failure_ne_ok failure)
      (fun failure e hw => ⟨hready, rfl, ?_⟩) hact (Plan.judge_of_eq_ok_iff.mpr ⟨_, rfl, rfl⟩) ?_
    · rw [List.append_assoc]
      refine .stopped e done _ ⟨_, _, _, Option.isSome_iff_exists.mpr ⟨failure, hw⟩⟩ hdone
        (fun _ => hzero) ?_
      exact hasked failure.answer ▸ hprefix
    · rw [List.append_assoc]
      exact ih _ _ hfiles (hasked _) hagenda

/-- **A call goes only through files that are ready**, from files that are, and comes to what it
should. -/
theorem passes_tuneRealTime (hready : Ready w.store) :
    tuneRealTime.run.Passes (serving (m.execute [] schedule)) (fun node => Ready node.2.store)
      (fun answer node => node.1 = cache ∧ Tuned schedule w answer node.2) (cache, w) := by
  obtain ⟨share, hshare⟩ : ∃ share, share? w.store = some share :=
    hready.elim (fun h => ⟨0, h⟩) fun h => ⟨950000, share?_of_budgeted h⟩
  obtain ⟨content, hcontent, hread⟩ := Option.bind_eq_some_iff.mp hshare
  have hread : readBudget content = .ok share := by
    cases h : readBudget content with
    | error e =>
      rw [h] at hread
      cases hread
    | ok share' =>
      rw [h] at hread
      exact congrArg _ (Option.some.inj hread)
  have hstopped : ∀ e (t : List Exchange), t.map (·.1) <+: looks →
      (∃ log store r, (schedule log store r).isSome) →
      Tuned schedule w (.error e) ⟨w.store, w.log ++ t⟩ := fun e t ht hdisturbed =>
    .stopped e [] t hdisturbed List.nil_prefix (fun h => absurd rfl h)
      (ht.trans (List.prefix_append _ _))
  have hlook : m.act (Plan.probeRequest budgetFile false) w.store = (⟨0, "", ""⟩, w.store) := by
    rw [Node.act_look, hcontent]
    rfl
  have hcat : m.act ⟨"cat " ++ quote budgetFile, true, true, none, none⟩ w.store =
      (⟨0, content, ""⟩, w.store) := by
    rw [Node.act_read, hcontent]
  rw [tuneRealTime_eq, budgetPlan, Plan.script_cons_some rfl, bind_assoc]
  -- The guard is there, it is read, and what it says decides whether anything is written.
  refine Node.passes_turn_bind rfl hready (fun failure _ => Node.judge_probe_failure_ne_ok failure)
    (fun failure e hw => ⟨hready, rfl, hstopped e _ ⟨_, rfl⟩
      ⟨_, _, _, Option.isSome_iff_exists.mpr ⟨failure, hw⟩⟩⟩) hlook
    (Plan.judge_of_eq_ok_iff.mpr ⟨true, rfl, rfl⟩) ?_
  rw [Plan.script_cons_some rfl, bind_assoc]
  refine Node.passes_turn_bind rfl hready (fun failure _ => Node.judge_note_failure_ne_ok failure)
    (fun failure e hw => ⟨hready, rfl, ?_⟩) hcat
    (Plan.judge_of_eq_ok_iff.mpr ⟨_, rfl, congrArg (Except.map _) hread⟩) ?_
  · rw [List.append_assoc]
    exact hstopped e _ (List.prefix_refl _) ⟨_, _, _, Option.isSome_iff_exists.mpr ⟨failure, hw⟩⟩
  · rw [List.append_assoc]
    by_cases hzero : share = 0
    · subst hzero
      exact passes_writes [] budget _ rfl hshare rfl rfl
    · have hzero' : share? w.store ≠ some 0 := by rwa [hshare, ne_eq, Option.some.injEq]
      have hskip : script budgetWrites ({ budgeted := true, share := some share } : Facts) =
          (pure { budgeted := true, share := some share } : Step Facts) := by
        rw [← List.append_nil budgetWrites, Plan.script_append_none]
        · rfl
        · simp [budgetWrites, budgetEntry, Plan.Item.onlyIf, hzero]
      simp only [hskip]
      exact ⟨hready, rfl, .idle hzero' _ rfl⟩

/-! ## Many calls -/

/-- A schedule by which nothing fails. -/
def undisturbed : Schedule := fun _ _ _ => none

/-- A call of the tuning on a node: its answer, and the node as it leaves it. -/
def call (m : Machine) (node : Cache × World) (schedule : Schedule) :
    Except InstallError Unit × (Cache × World) :=
  let ((answer, cache), w) := tuneRealTime.runOn (m.execute [] schedule) node.1 node.2
  (answer, (cache, w))

/-- A node after calls of the tuning, each disturbed in a way of its own. -/
def after (m : Machine) (node : Cache × World) (schedules : List Schedule) : Cache × World :=
  schedules.foldl (fun node schedule => (call m node schedule).2) node

variable {answer : Except InstallError Unit} {w' : World} {node : Cache × World}
  {schedules : List Schedule}

theorem tuned_call (hready : Ready node.2.store) :
    Tuned schedule node.2 (call m node schedule).1 (call m node schedule).2.2 := by
  have hcall : call m node schedule =
      tuneRealTime.run.run (serving (m.execute [] schedule)) node :=
    Node.run_serve_eq _ _ _ _
  rw [hcall]
  exact (passes_tuneRealTime hready).run.2

theorem Tuned.ready (h : Tuned schedule w answer w') (hready : Ready w.store) : Ready w'.store := by
  cases h with
  | stopped e done t _ hdone hzero _ =>
    cases done with
    | nil => exact hready
    | cons file files => exact Or.inl ((share?_written hdone).trans (hzero (List.cons_ne_nil _ _)))
  | idle => exact hready
  | complete => exact Or.inr (budgeted_written _)

/-- A call that ends well leaves the whole budget behind. -/
theorem Tuned.budgeted (h : Tuned schedule w (.ok ()) w') (hready : Ready w.store) :
    Budgeted w'.store := by
  cases h with
  | idle nonzero => exact hready.resolve_left nonzero
  | complete => exact budgeted_written _

/-- A call that fails leaves the guard as it is. -/
theorem Tuned.share?_eq {e : InstallError} (h : Tuned schedule w (.error e) w') :
    share? w'.store = share? w.store := by
  cases h with
  | stopped _ done t _ hdone _ _ => exact share?_written hdone

theorem ready_after (hready : Ready node.2.store) (schedules : List Schedule) :
    Ready (after m node schedules).2.store := by
  induction schedules generalizing node with
  | nil => exact hready
  | cons schedule schedules ih => exact ih ((tuned_call hready).ready hready)

/-- A call that nothing disturbs ends well. -/
theorem Tuned.of_undisturbed (h : Tuned undisturbed w answer w') : answer = .ok () := by
  cases h with
  | stopped e done t disturbed =>
    obtain ⟨_, _, _, hfailure⟩ := disturbed
    cases hfailure
  | idle => rfl
  | complete => rfl

/-- Once the budget is there, a call writes nothing. -/
theorem Tuned.of_budgeted (h : Tuned schedule w answer w') (hw : Budgeted w.store) :
    w'.store = w.store ∧ ∃ t : List Exchange, w'.log = w.log ++ t ∧ ∀ x ∈ t, x.1 ∈ looks := by
  have hnonzero : share? w.store ≠ some 0 := by
    rw [share?_of_budgeted hw]
    decide
  have hlooks : ∀ t : List Exchange, t.map (·.1) <+: looks → ∀ x ∈ t, x.1 ∈ looks :=
    fun t ht x hx => ht.subset (List.mem_map_of_mem hx)
  cases h with
  | stopped e done t _ _ zero asked =>
    rw [agenda, if_neg hnonzero, List.append_nil] at asked
    obtain rfl : done = [] := Classical.byContradiction fun h => hnonzero (zero h)
    exact ⟨rfl, t, rfl, hlooks t asked⟩
  | idle _ t asked => exact ⟨rfl, t, rfl, hlooks t (asked ▸ List.prefix_refl _)⟩
  | complete zero => exact absurd zero hnonzero

/-- Once the budget is there, it stays. -/
theorem budgeted_after (hnode : Budgeted node.2.store) (schedules : List Schedule) :
    Budgeted (after m node schedules).2.store := by
  induction schedules generalizing node with
  | nil => exact hnode
  | cons schedule schedules ih =>
    refine ih ?_
    rw [((tuned_call (Or.inr hnode)).of_budgeted hnode).1]
    exact hnode

/-- **A tuning that breaks off is taken up again.** On a node whose guard gives no share, after any
number of calls, each disturbed in any way, and at every moment of the next: the guard gives a share
only if the whole budget is there. So a call that ends well leaves it all behind, and one that fails
while the guard gives no share leaves it so. A call that nothing disturbs ends well, with all that is
missing written; and after it no call, disturbed or not, writes anything. -/
theorem tuneRealTime_resumes (m : Machine) (cache : Cache) (w : World)
    (hzero : share? w.store = some 0) (schedules : List Schedule) (schedule : Schedule) :
    let node := after m (cache, w) schedules
    (∀ moment ∈ tuneRealTime.run.moments (serving (m.execute [] schedule)) node,
      share? moment.2.store ≠ some 0 → Budgeted moment.2.store) ∧
    ((call m node schedule).1 = .ok () → Budgeted (call m node schedule).2.2.store) ∧
    (∀ e, share? node.2.store = some 0 → (call m node schedule).1 = .error e →
      share? (call m node schedule).2.2.store = some 0) ∧
    ((call m node undisturbed).1 = .ok () ∧ Budgeted (call m node undisturbed).2.2.store ∧
      (share? node.2.store = some 0 → ∃ t : List Exchange,
        (call m node undisturbed).2.2.log = node.2.log ++ t ∧
        t.map (·.1) = looks ++ budget.map writeRequest)) ∧
    ∀ later, let next := after m (cache, w) (schedules ++ undisturbed :: later)
      (call m next schedule).2.2.store = next.2.store ∧
      ∃ t : List Exchange, (call m next schedule).2.2.log = next.2.log ++ t ∧
        ∀ x ∈ t, x.1 ∈ looks := by
  intro node
  have hready : Ready node.2.store := ready_after (Or.inl hzero) schedules
  have htuned : Tuned schedule node.2 (call m node schedule).1 (call m node schedule).2.2 :=
    tuned_call hready
  have hundisturbed : Tuned undisturbed node.2 (call m node undisturbed).1
      (call m node undisturbed).2.2 := tuned_call hready
  have hok := hundisturbed.of_undisturbed
  rw [hok] at hundisturbed
  refine ⟨fun moment hmoment => (passes_tuneRealTime hready).moments moment hmoment |>.resolve_left,
    fun h => ?_, fun e hnode h => ?_, ⟨hok, hundisturbed.budgeted hready, fun hnode => ?_⟩,
    fun later => ?_⟩
  · rw [h] at htuned
    exact htuned.budgeted hready
  · rw [h] at htuned
    exact htuned.share?_eq.trans hnode
  · generalize (call m node undisturbed).2.2 = last at hundisturbed
    cases hundisturbed with
    | idle nonzero => exact absurd hnode nonzero
    | complete _ t asked => exact ⟨t, rfl, asked⟩
  · intro next
    have hnext : next = after m (call m node undisturbed).2 later := List.foldl_append
    have hbudgeted : Budgeted next.2.store :=
      hnext ▸ budgeted_after (hundisturbed.budgeted hready) later
    exact (tuned_call (Or.inr hbudgeted)).of_budgeted hbudgeted

/-- Files without a budget: only the guard is there. -/
def unset : Store := fun path => if path = budgetFile then some "0\n" else none

/-- The fifth request is lost: the third of the files is not written. -/
def breaking : Schedule := fun log _ _ =>
  if log.length = 4 then some (.lost (.io "broken pipe")) else none

theorem resumes_after_break : share? unset = some 0 ∧
    ∀ m : Machine, (call m (after m ({}, ⟨unset, []⟩) [breaking]) undisturbed).1 = .ok () ∧
      Budgeted (call m (after m ({}, ⟨unset, []⟩) [breaking]) undisturbed).2.2.store := by
  have hzero : share? unset = some 0 := by decide +kernel
  refine ⟨hzero, fun m => ?_⟩
  obtain ⟨-, -, -, ⟨hok, hbudgeted, -⟩, -⟩ :=
    tuneRealTime_resumes m {} ⟨unset, []⟩ hzero [breaking] undisturbed
  exact ⟨hok, hbudgeted⟩

end Testbed.Install

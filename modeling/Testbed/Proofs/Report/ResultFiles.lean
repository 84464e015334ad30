import Testbed.Host.Sandbox
import Testbed.Proofs.Host.Directory
import Testbed.Proofs.Report.Offering
import Testbed.Proofs.Report.Table
import Testbed.Proofs.Script

/-!
# The files that text notifiers write

A text notifier looks at its path once, when it is registered, and writes there whenever the hub comes
to its end. That nothing is overwritten that was there before is therefore a matter of what the paths
of all registered notifiers led to in the beginning: to no file at all.

* `Step.Checked`: a step that registers a text notifier only after a look at its path.
* `WritesTo`, `LastTo`: the notifiers that write to a location, and the last of them.
* `Sound`: what holds of a hub between two steps.

Results:
* `passes_finalize`: the end of a hub writes what the last notifiers of the files keep, and nothing else.
* `passes_perform`, `passes_performAll`: a sound hub stays sound, step by step.

Headline: **`result_files`**: whatever is done with a hub, the files that were there are left alone, and
a good end leaves in each result file the table of what its last notifier was offered.
-/

namespace Testbed.Report

open Host (Directory Location Entry Sandbox)

/-- A step that registers a text notifier only after a look at its path. -/
def Step.Checked : Step → Prop
  | .register (.text ..) => False
  | _ => True

/-- A notifier that writes to the file at a location. -/
def Notifier.WritesTo (d : Directory) (location : Location) : Notifier → Prop
  | .text path _ => d.locate path = .ok location
  | _ => False

/-- The last of the notifiers that write to a location has this place. -/
structure Hub.LastTo (d : Directory) (location : Location) (hub : Hub) (i : Nat) : Prop where
  writes : ∃ n, hub[i]? = some n ∧ n.WritesTo d location
  last : ∀ (j : Nat) n, i < j → hub[j]? = some n → ¬n.WritesTo d location

/-- The file of what a notifier keeps: the lines of its table, each with a line feed behind it. -/
def Notifier.file (n : Notifier) : Entry := .file (some (textOf (table n.kept)))

variable {d₀ d : Directory} {location : Location} {w w' : Sandbox} {n n' : Notifier} {hub : Hub}
  {rounds : List Round} {m : Message}

/-- A notifier that writes only where nothing stood. -/
def Notifier.WritesFree (d₀ : Directory) (n : Notifier) : Prop :=
  ∀ location, n.WritesTo d₀ location → d₀.entry? location = none

/-! ## The end of a hub -/

/-- What lines are printed changes no file. -/
theorem passes_print (lines : List String) (h : d₀.Extends w.directory) :
    (lines.forM Host.print).Passes Sandbox.perform (fun s => d₀.Extends s.directory)
      (fun _ s => s.directory = w.directory) w := by
  induction lines generalizing w with
  | nil => exact ⟨h, rfl⟩
  | cons line lines ih => exact ⟨h, @ih { w with printed := w.printed ++ [line] } h⟩

/-- What a notifier leaves behind that comes to a good end: its own file, and all others as they
were. -/
structure Notifier.Leaves (d₀ : Directory) (n : Notifier) (d d' : Directory) : Prop where
  found : ∀ path kept, n = .text path kept → ∃ location, d₀.locate path = .ok location
  files : ∀ location, n.WritesTo d₀ location ∧ d'.entry? location = some n.file ∨
    ¬n.WritesTo d₀ location ∧ d'.entry? location = d.entry? location

/-- What a hub leaves behind that comes to a good end: at each location the file of the last notifier
that writes there, and elsewhere what was there before. -/
structure Hub.Leaves (d₀ : Directory) (hub : Hub) (d d' : Directory) : Prop where
  found : ∀ path kept, Notifier.text path kept ∈ hub → ∃ location, d₀.locate path = .ok location
  files : ∀ location,
    (∃ i n, hub.LastTo d₀ location i ∧ hub[i]? = some n ∧ d'.entry? location = some n.file) ∨
    (∀ n ∈ hub, ¬n.WritesTo d₀ location) ∧ d'.entry? location = d.entry? location

/-- **The end of a notifier** leaves all but its own file alone. -/
theorem Notifier.passes_finalize (h : d₀.Extends w.directory) (hfree : n.WritesFree d₀) :
    n.finalize.Passes Sandbox.perform (fun s => d₀.Extends s.directory)
      (fun outcome s => d₀.Extends s.directory ∧
        (outcome = .ok () → n.Leaves d₀ w.directory s.directory)) w := by
  cases n with
  | log | collect _ | recorder _ _ _ => exact ⟨h, h, fun _ => ⟨nofun, fun _ => .inr ⟨id, rfl⟩⟩⟩
  | console kept =>
    refine Script.passes_bind (passes_print (table kept) h) fun _ s hs => ?_
    have hextends : d₀.Extends s.directory := hs ▸ h
    exact ⟨hextends, hextends, fun _ => ⟨nofun, fun _ => .inr ⟨id, by rw [hs]⟩⟩⟩
  | text path kept =>
    refine ⟨h, ?_⟩
    simp only [Sandbox.perform, fileText_eq]
    cases hwrite : w.directory.write path (textOf (table kept)) with
    | error fault => exact ⟨h, h, nofun⟩
    | ok d₁ =>
      have hextends : d₀.Extends d₁ := h.write hwrite hfree
      obtain ⟨location, hlocate, -, -, hentry⟩ := Directory.entry?_write hwrite
      rw [h.locate_eq_ok_iff] at hlocate
      refine ⟨hextends, hextends, fun _ => ⟨?_, fun location' => ?_⟩⟩
      · rintro _ _ ⟨⟩
        exact ⟨location, hlocate⟩
      by_cases hlocation : location' = location
      · exact .inl ⟨hlocation ▸ hlocate, by rw [hentry, if_pos hlocation]; rfl⟩
      · refine .inr ⟨fun hwrites => hlocation (Except.ok.inj (hwrites.symm.trans hlocate)), ?_⟩
        rw [hentry, if_neg hlocation]

theorem Hub.LastTo.cons {i : Nat} (h : hub.LastTo d location i) (n : Notifier) :
    Hub.LastTo d location (n :: hub) (i + 1) where
  writes := h.writes
  last j n' hj hn' := by
    cases j with
    | zero => exact absurd hj (Nat.not_lt_zero _)
    | succ j => exact h.last j n' (Nat.lt_of_succ_lt_succ hj) hn'

theorem Hub.lastTo_zero (hn : n.WritesTo d location) (h : ∀ n ∈ hub, ¬n.WritesTo d location) :
    Hub.LastTo d location (n :: hub) 0 where
  writes := ⟨n, rfl, hn⟩
  last j n' hj hn' := by
    cases j with
    | zero => exact absurd hj (Nat.lt_irrefl _)
    | succ j => exact h n' (List.mem_of_getElem? hn')

theorem Hub.leaves_cons {d₁ d' : Directory} (hn : n.Leaves d₀ d d₁) (h : hub.Leaves d₀ d₁ d') :
    Hub.Leaves d₀ (n :: hub) d d' where
  found path kept hmem := (List.mem_cons.mp hmem).elim (fun heq => hn.found path kept heq.symm)
    (h.found path kept)
  files location := by
    rcases h.files location with ⟨i, n', hlast, hn', hentry⟩ | ⟨hnone, hentry⟩
    · exact .inl ⟨i + 1, n', hlast.cons n, hn', hentry⟩
    · rcases hn.files location with ⟨hwrites, hfile⟩ | ⟨hwrites, hsame⟩
      · exact .inl ⟨0, n, Hub.lastTo_zero hwrites hnone, rfl, hentry.trans hfile⟩
      · exact .inr ⟨List.forall_mem_cons.mpr ⟨hwrites, hnone⟩, hentry.trans hsame⟩

/-- **The end of a hub** leaves alone what was there in the beginning, and a good end leaves the files of
the last notifiers. -/
theorem Hub.passes_finalize (h : d₀.Extends w.directory) (hfree : ∀ n ∈ hub, n.WritesFree d₀) :
    hub.finalize.Passes Sandbox.perform (fun s => d₀.Extends s.directory)
      (fun outcome s => d₀.Extends s.directory ∧
        (outcome = .ok () → hub.Leaves d₀ w.directory s.directory)) w := by
  induction hub generalizing w with
  | nil => exact ⟨h, h, fun _ => ⟨nofun, fun _ => .inr ⟨nofun, rfl⟩⟩⟩
  | cons n hub ih =>
    obtain ⟨hn, hhub⟩ := List.forall_mem_cons.mp hfree
    refine Script.passes_bind (Notifier.passes_finalize h hn) fun outcome s hs => ?_
    obtain ⟨hextends, hleaves⟩ := hs
    cases outcome with
    | error e => exact ⟨hextends, hextends, nofun⟩
    | ok =>
      refine (ih hextends hhub).imp fun outcome s' hs' => ?_
      exact ⟨hs'.1, fun hok => Hub.leaves_cons (hleaves rfl) (hs'.2 hok)⟩

/-! ## What holds between two steps -/

/-- **A sound hub**: the files that were there are there as they were, the text notifiers write only
where there were none, and each keeps what came to an end of all that it was offered. -/
structure Hub.Sound (d₀ : Directory) (hub : Hub) (rounds : List Round) (d : Directory) : Prop where
  extension : d₀.Extends d
  free : ∀ n ∈ hub, n.WritesFree d₀
  kept : ∀ (i : Nat) path kept, hub[i]? = some (.text path kept) →
    kept = (offeredTo i rounds).filter (·.isCompleted)
  within : ∀ i, hub.length ≤ i → offeredTo i rounds = []

theorem Hub.sound_nil (d₀ : Directory) : Hub.Sound d₀ [] [] d₀ where
  extension := .refl d₀
  free := nofun
  kept := nofun
  within _ _ := rfl

/-- A notifier that has heard nothing yet joins the hub. -/
theorem Hub.Sound.register (h : hub.Sound d₀ rounds d) (hfree : n.WritesFree d₀)
    (hkept : ∀ path kept, n = .text path kept → kept = []) :
    (hub.register n).Sound d₀ rounds d where
  extension := h.extension
  free := List.forall_mem_append.mpr ⟨h.free, List.forall_mem_singleton.mpr hfree⟩
  kept i path kept hi := by
    rw [Hub.register, List.getElem?_append] at hi
    split at hi
    · exact h.kept i path kept hi
    · rw [List.getElem?_singleton] at hi
      split at hi
      · rw [h.within i (Nat.le_of_not_lt ‹_›), hkept path kept (Option.some.inj hi)]
        rfl
      · cases hi
  within i hi := by
    rw [Hub.register, List.length_append] at hi
    exact h.within i (Nat.le_of_add_right_le hi)

/-- Only registered notifiers are offered a message. -/
theorem Round.Tells.lt_of_reaches {r : Round} {hub' : Hub} {outcome : Except NotifierError Unit} {i : Nat}
    (hr : r.Tells hub hub' outcome) (h : r.reaches i = true) : i < hub.length := by
  simp only [reaches, pleases, Bool.or_eq_true, Bool.and_eq_true, decide_eq_true_eq,
    beq_iff_eq] at h
  cases hfailure : r.failure with
  | none =>
    have hlt : i < r.accepted := h.resolve_right fun hlast => by
      rw [hfailure] at hlast
      cases hlast.2
    exact hr.all hfailure ▸ hlt
  | some e =>
    obtain ⟨n, hn, -⟩ := hr.refuses e hfailure
    obtain ⟨hlt, -⟩ := List.getElem?_eq_some_iff.mp hn
    omega

theorem Notifier.heard_eq_text {path : String} {kept' : List Message} (h : n.heard m = .text path kept') :
    ∃ kept, n = .text path kept ∧ kept' = kept ++ [m].filter (·.isCompleted) := by
  cases n with
  | log | collect _ | console _ => cases h
  | text path kept =>
    cases h
    exact ⟨kept, rfl, congrArg (kept ++ ·) (ended_eq m)⟩
  | recorder name temper kept =>
    rw [heard, offer] at h
    cases hrefuse : temper.refuse temper.offered m with
    | none =>
      rw [hrefuse] at h
      cases h
    | some e =>
      rw [hrefuse] at h
      cases h

theorem Notifier.writesTo_of_heard (h : (n.heard m).WritesTo d location) : n.WritesTo d location := by
  cases hn : n.heard m with
  | text path kept' =>
    obtain ⟨kept, rfl, -⟩ := heard_eq_text hn
    rw [hn] at h
    exact h
  | log | collect _ | console _ | recorder _ _ _ =>
    rw [hn] at h
    exact h.elim

/-- A message is offered to the hub. -/
theorem Hub.Sound.notify (h : hub.Sound d₀ rounds d) (m : Message) :
    (hub.notify m).1.Sound d₀ (rounds ++ [hub.round m]) d := by
  have htells := Hub.tells_notify m hub
  refine ⟨h.extension, fun n' hn' => ?_, fun i path kept' hi => ?_, fun i hi => ?_⟩
  · obtain ⟨i, hi⟩ := List.mem_iff_getElem?.mp hn'
    rw [htells.hears i] at hi
    obtain ⟨n, hn, rfl⟩ := Option.map_eq_some_iff.mp hi
    intro location hwrites
    refine h.free n (List.mem_of_getElem? hn) location ?_
    split at hwrites
    · exact Notifier.writesTo_of_heard hwrites
    · exact hwrites
  · rw [htells.hears i] at hi
    obtain ⟨n, hn, hn'⟩ := Option.map_eq_some_iff.mp hi
    rw [offeredTo_append, offeredTo_singleton, List.filter_append]
    split at hn'
    · obtain ⟨kept, rfl, rfl⟩ := Notifier.heard_eq_text hn'
      rw [if_pos ‹_›, h.kept i path kept hn]
    · obtain rfl := hn'
      rw [if_neg ‹_›, List.filter_nil, List.append_nil, h.kept i path kept' hn]
  · rw [Hub.length_notify] at hi
    have hreaches : (hub.round m).reaches i = false :=
      Bool.eq_false_iff.mpr fun hreaches => Nat.not_lt_of_le hi (htells.lt_of_reaches hreaches)
    rw [offeredTo_append, offeredTo_singleton, h.within i hi, hreaches]
    rfl

/-- **A sound hub stays sound**, whatever is done with it, and leaves alone what was there before. -/
theorem Hub.passes_perform (h : hub.Sound d₀ rounds w.directory) {step : Step} (hstep : step.Checked) :
    (hub.perform step).Passes Sandbox.perform (fun s => d₀.Extends s.directory)
      (fun result s => result.1.Sound d₀ (rounds ++ hub.roundsOf step) s.directory) w := by
  cases step with
  | register n =>
    simp only [Hub.roundsOf, List.append_nil]
    refine ⟨h.extension, h.register ?_ ?_⟩
    all_goals cases n
    all_goals first | exact hstep.elim | exact nofun
  | registerText path =>
    simp only [Hub.roundsOf, List.append_nil]
    refine ⟨h.extension, ?_⟩
    simp only [Sandbox.perform]
    cases hlookup : w.directory.lookup path with
    | ok entry => exact ⟨h.extension, h⟩
    | error fault =>
      -- What stood there in the beginning would still stand there.
      refine ⟨h.extension, h.register (fun location hlocate => ?_) fun _ kept hkept => ?_⟩
      · refine Option.eq_none_iff_forall_ne_some.mpr fun entry hentry => ?_
        have hthere := h.extension.lookup (Directory.lookup_eq_ok_iff.mpr ⟨location, hlocate, hentry⟩)
        exact nomatch hthere.symm.trans hlookup
      · cases hkept
        rfl
  | notify m => exact ⟨h.extension, h.notify m⟩
  | finalize =>
    simp only [Hub.roundsOf, List.append_nil]
    refine Script.passes_bind (Hub.passes_finalize h.extension h.free) fun outcome s hs => ?_
    exact ⟨hs.1, { h with extension := hs.1 }⟩

/-- **So it does all the way.** -/
theorem Hub.passes_performAll (h : hub.Sound d₀ rounds w.directory) {steps : List Step}
    (hsteps : ∀ step ∈ steps, step.Checked) :
    (hub.performAll steps).Passes Sandbox.perform (fun s => d₀.Extends s.directory)
      (fun result s => result.1.Sound d₀ (rounds ++ result.2) s.directory) w := by
  induction steps generalizing hub rounds w with
  | nil => exact ⟨h.extension, by simpa only [List.append_nil] using h⟩
  | cons step steps ih =>
    obtain ⟨hstep, hsteps⟩ := List.forall_mem_cons.mp hsteps
    refine Script.passes_bind (Hub.passes_perform h hstep) fun (next, _) s hnext => ?_
    refine Script.passes_bind (ih hnext hsteps) fun (last, more) s' hlast => ?_
    exact ⟨hlast.extension, by simpa only [List.append_assoc] using hlast⟩

/-! ## Result files -/

/-- A path where something stands is refused. -/
theorem Hub.run_registerText_of_lookup (hub : Hub) {path : String} {entry : Entry}
    (h : w.directory.lookup path = .ok entry) :
    (hub.perform (.registerText path)).run Sandbox.perform w =
      ((hub, .error (.fileExists path)), w) := by
  have hprobe : Sandbox.perform (.probe path) w = (true, w) := by
    simp only [Sandbox.perform, h]
    rfl
  simp only [Hub.perform, Notifier.text?, Host.probe, Script.question, Script.ask_bind]
  rw [Script.run]
  simp only [bind, StateT.bind, hprobe]
  rfl

/-- **Result files overwrite nothing and are complete.** Whatever is done with a hub from the beginning,
at every moment all that stood in the tree of files stands there as it did. A text notifier for a path
where something stands is refused, and the hub and the machine are left as they were; messages leave the
machine alone. And after an end without failure, the file at the path of a text notifier is the table of
what came to an end of the messages that were offered to the last notifier that writes there, since it
was registered. -/
theorem result_files {steps : List Step} (hsteps : ∀ step ∈ steps, step.Checked)
    (hrun : (Hub.performAll [] steps).run Sandbox.perform w = ((hub, rounds), w')) :
    (∀ moment ∈ (Hub.performAll [] steps).moments Sandbox.perform w,
      w.directory.Extends moment.directory) ∧
    (∀ path entry, w'.directory.lookup path = .ok entry →
      (hub.perform (.registerText path)).run Sandbox.perform w' =
        ((hub, .error (.fileExists path)), w')) ∧
    (∀ m, (hub.perform (.notify m)).run Sandbox.perform w' = (hub.notify m, w')) ∧
    ∀ w'', hub.finalize.run Sandbox.perform w' = (.ok (), w'') →
      ∀ path kept, Notifier.text path kept ∈ hub →
        ∃ location i, w.directory.locate path = .ok location ∧ hub.LastTo w.directory location i ∧
          w''.directory.read path =
            .ok (textOf (table ((offeredTo i rounds).filter (·.isCompleted)))) := by
  have hpasses := Hub.passes_performAll (Hub.sound_nil w.directory) hsteps
  have hsound := hpasses.run
  rw [hrun, List.nil_append] at hsound
  refine ⟨hpasses.moments, fun path entry hlookup => ?_, fun _ => rfl, fun w'' hend path kept hmem => ?_⟩
  · exact Hub.run_registerText_of_lookup hub hlookup
  · have hfinal := (Hub.passes_finalize hsound.extension hsound.free).run
    rw [hend] at hfinal
    obtain ⟨hextension, hleaves⟩ := hfinal
    obtain ⟨found, hfiles⟩ := hleaves rfl
    obtain ⟨location, hlocate⟩ := found path kept hmem
    rcases hfiles location with ⟨i, n, hlast, hn, hentry⟩ | ⟨hnone, -⟩
    · refine ⟨location, i, hlocate, hlast, ?_⟩
      obtain ⟨n', hn', hwrites⟩ := hlast.writes
      obtain rfl := Option.some.inj (hn.symm.trans hn')
      have hread := Directory.read_of_lookup (Directory.lookup_eq_ok_iff.mpr
        ⟨location, hextension.locate_eq_ok_iff.mpr hlocate, hentry⟩)
      cases n with
      | text path' kept' => rw [hread, Notifier.kept, hsound.kept i path' kept' hn]
      | log | collect _ | console _ | recorder _ _ _ => exact hwrites.elim
    · exact absurd hlocate (hnone _ hmem)

/-- A machine with a file in its root. -/
def furnished : Sandbox := { directory := { entries := [(["old.txt"], .file (some "as it was"))] } }

/-- Two notifiers for one file, a recorder between them that refuses a message, and a notifier for a file
that is there. -/
def crowded : List Step :=
  [.registerText "/new.txt", .register (.recorderFor "strict" (some ("b", .io "refused"))),
    .registerText "/new.txt", .registerText "/old.txt", .notify ⟨"a", "ltp", .passed, "", []⟩,
    .notify ⟨"b", "ltp", .passed, "", []⟩]

theorem result_files_crowded :
    let use := (Hub.performAll [] crowded).run Sandbox.perform furnished
    let last := use.1.1.finalize.run Sandbox.perform use.2
    (∀ step ∈ crowded, step.Checked) ∧ last.1 = .ok () ∧
      ∃ location i, furnished.directory.locate "/new.txt" = .ok location ∧
        use.1.1.LastTo furnished.directory location i ∧ last.2.directory.read "/new.txt" =
          .ok (textOf (table ((offeredTo i use.1.2).filter (·.isCompleted)))) := by
  have hsteps : ∀ step ∈ crowded, step.Checked := by
    simp only [crowded, Notifier.recorderFor, List.forall_mem_cons]
    exact ⟨trivial, trivial, trivial, trivial, trivial, trivial, nofun⟩
  have hlast : let use := (Hub.performAll [] crowded).run Sandbox.perform furnished
      (use.1.1.finalize.run Sandbox.perform use.2).1 = .ok () := by decide +kernel
  have hkept : (((Hub.performAll [] crowded).run Sandbox.perform furnished).1.1[2]?.bind fun
      | .text path kept => some (path, kept)
      | _ => none) = some ("/new.txt", [⟨"a", "ltp", .passed, "", []⟩]) := by decide +kernel
  generalize huse : (Hub.performAll [] crowded).run Sandbox.perform furnished = use at hlast hkept
  obtain ⟨⟨hub, rounds⟩, w'⟩ := use
  obtain ⟨-, -, -, hfiles⟩ := result_files hsteps huse
  obtain ⟨n, hn, hkept⟩ := Option.bind_eq_some_iff.mp hkept
  cases n with
  | text path kept =>
    cases hkept
    exact ⟨hsteps, hlast, hfiles _ (Prod.ext hlast rfl) _ _ (List.mem_of_getElem? hn)⟩
  | log | collect _ | console _ | recorder _ _ _ => cases hkept

end Testbed.Report

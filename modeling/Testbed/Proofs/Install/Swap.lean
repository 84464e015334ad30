import Testbed.Proofs.Install.BuildDirectory
import Testbed.Proofs.Install.Following
import Testbed.Proofs.Node.Resources

/-!
# A swap file in use

A swap file that is in use must not be filled with zeros. Nothing looks at whether it is in use: the
swap stage looks at the total of the swap space, and valid settings have a swap file that is enough, so
with the file in use the total is.

* `Space` is a node: whether its swap file is in use, and what it saw. `Ground` is what does not change
  of it, and `Ground.totalMb` its swap space.
* `words?`: the command of a request as the shell reads it.
* `Schedule`: which commands have no effect. A schedule knows all that the node saw.
* `execute`: the node as a world to run commands in.
* `Issued`: commands in order, up to the first that has no effect.
* `Ended`: what a call of the swap stage comes to.
* `call`, `after`: one call, and calls one after the other.

Results:
* `words?_swapCommands`: the commands are read as they are meant, whatever the file is called.
* `ended_call`: one call comes to what it should.
* `spared_call`, `spared_after`: with the file in use a node sees nothing but looks.

Headline: **`ensureSwap_spares_active`**: however many calls break off, a swap file in use is left
alone, and a call that ends well leaves enough swap space for good.
-/

namespace Testbed

namespace Shell

/-- A file of zeros. -/
theorem reading_zeros (path : String) (mib : Nat) :
    reading ("dd if=/dev/zero of=" ++ quote path ++ " bs=1M count=" ++ toString mib) =
      some (⟨["dd", "if=/dev/zero", "of=" ++ path, "bs=1M", "count=" ++ toString mib], []⟩, none) := by
  have hquote := quote_toString mib
  generalize toString mib = count at hquote ⊢
  have hcount : quoteChars count.toList = count.toList := by
    rw [← String.toList_ofList (l := quoteChars count.toList)]
    exact congrArg String.toList hquote
  have htext : ("dd if=/dev/zero of=" ++ quote path ++ " bs=1M count=" ++ count).toList =
      "dd".toList ++ ' ' :: ("if=/dev/zero".toList ++ ' ' :: ("of=".toList ++ (quoteChars path.toList ++
        ' ' :: ("bs=1M".toList ++ ' ' :: ("count=".toList ++ (quoteChars count.toList ++ [])))))) := by
    rw [hcount]
    simp [quote]
  have hscan : scan (.bare none)
      ("dd if=/dev/zero of=" ++ quote path ++ " bs=1M count=" ++ count).toList =
      some (wordTokens ["dd", "if=/dev/zero", "of=" ++ path, "bs=1M", "count=" ++ count], none) := by
    have hword : ∀ text ∈ ["dd", "if=/dev/zero", "of=", "bs=1M", "count="],
        text.toList ≠ [] ∧ text.toList.all isOrdinary = true := by decide
    simp only [List.forall_mem_cons, List.all_eq_true] at hword
    obtain ⟨hdd, hif, hof, hbs, hn, -⟩ := hword
    rw [htext, scan_word hdd.1 hdd.2, scan_blank, scan_word hif.1 hif.2, scan_blank, scan_word hof.1 hof.2,
      scan_quoteChars, scan_blank, scan_word hbs.1 hbs.2, scan_blank, scan_word hn.1 hn.2, scan_quoteChars]
    simp [ended, wordTokens, Scan.after]
  exact reading_of_scan "dd" (by decide) hscan (ofTokens_wordTokens _) rfl

end Shell

namespace Install.Swap

open Node (change readSwapTotal wordLimit)
open Plan (script)
open Shell (quote understood)

/-! ## A node and its swap file -/

/-- A command that has no effect: it cannot be run, or it ends with an exit code that is not zero. -/
inductive Mishap where
  | lost (e : NodeError)
  | exited (output : Output) (h : output.exitCode ≠ 0)

/-- The answer to a request whose command has no effect. -/
def Mishap.answer : Mishap → Answer
  | .lost e => .error e
  | .exited output _ => .ok output

/-- A request as the node saw it: whether the swap file was in use when it came, and the answer. -/
structure Sighting where
  request : Request
  active : Bool
  answer : Answer

/-- The words of the command that a request makes a node run, if that is one plain command. -/
def words? (r : Request) : Option (List String) :=
  match understood r.elevated r.line with
  | some (⟨words, []⟩, none) => some words
  | _ => none

/-- Which commands have no effect, given all that the node saw before. -/
abbrev Schedule := List Sighting → Request → Option Mishap

/-- A node: whether its swap file is in use, and what it saw. -/
structure Space where
  active : Bool := false
  log : List Sighting := []

/-- What does not change of a node: its swap space apart from the file, and what programs print, given
what it saw. The table that `free` prints tells the total. -/
structure Ground where
  otherMb : Nat
  table : List Sighting → Nat → String
  tells : ∀ log total, Node.TellsSwap (table log total) total
  prints : List Sighting → Request → String × String

/-- The command that shows the swap space. -/
def look : List String := ["free", "-m"]

/-- The command that puts the swap file to use. -/
def switch (s : Settings) : List String := ["swapon", s.swapFile]

/-- The commands that make the swap file: it is filled with zeros, closed to other users and given the
form of swap space. -/
def preparations (s : Settings) : List (List String) :=
  [["dd", "if=/dev/zero", "of=" ++ s.swapFile, "bs=1M", "count=" ++ toString s.swapFileSizeMb],
    ["chmod", "600", s.swapFile], ["mkswap", s.swapFile]]

/-- The swap space of a node in MiB. -/
def Ground.totalMb (g : Ground) (s : Settings) (active : Bool) : Nat :=
  g.otherMb + if active then s.swapFileSizeMb else 0

/-- What the programs of a node print for a request. -/
def Ground.output (g : Ground) (s : Settings) (r : Request) (w : Space) : Output :=
  if words? r = some look then ⟨0, g.table w.log (g.totalMb s w.active), (g.prints w.log r).2⟩
  else ⟨0, (g.prints w.log r).1, (g.prints w.log r).2⟩

/-- Carries out a request, unless its command has no effect. -/
def execute (g : Ground) (s : Settings) (schedule : Schedule) (r : Request) : StateM Space Answer :=
  fun w =>
    match schedule w.log r with
    | some mishap => (mishap.answer, { w with log := w.log ++ [⟨r, w.active, mishap.answer⟩] })
    | none => (.ok (g.output s r w), ⟨w.active || words? r == some (switch s),
        w.log ++ [⟨r, w.active, .ok (g.output s r w)⟩]⟩)

/-! ## What a call comes to -/

/-- The total that the answer to a look reports. -/
def reported? (answer : Answer) : Option Nat :=
  match answer with
  | .ok output => if output.exitCode = 0 then (readSwapTotal output.stdout).toOption else none
  | .error _ => none

/-- **Commands that are issued in order**, each after the one before has ended well: whether the file
is in use before them, what the node sees of them, whether all of them end well, and whether the file is
in use after them. -/
inductive Issued (s : Settings) (schedule : Schedule) :
    List (List String) → Bool → List Sighting → Bool → Bool → Prop
  | all (active : Bool) : Issued s schedule [] active [] true active
  | stop {words : List String} {more : List (List String)} {active : Bool} {log : List Sighting}
      {r : Request} {mishap : Mishap} (hr : words? r = some words) (h : schedule log r = some mishap) :
      Issued s schedule (words :: more) active [⟨r, active, mishap.answer⟩] false active
  | next {words : List String} {more : List (List String)} {active through active' : Bool} {r : Request}
      {output : Output} {t : List Sighting} (hr : words? r = some words) (h : output.exitCode = 0)
      (ht : Issued s schedule more (active || words == switch s) t through active') :
      Issued s schedule (words :: more) active (⟨r, active, .ok output⟩ :: t) through active'

/-- **What a call comes to**: what the node sees of it, its answer, and whether the file is in use
after it. It begins with a look. -/
inductive Ended (g : Ground) (s : Settings) (schedule : Schedule) (active : Bool) :
    List Sighting → Except InstallError Unit → Bool → Prop
  /-- The look has no effect, or reports more than can be read. -/
  | blind {r : Request} {answer : Answer} {e : InstallError} (hr : words? r = some look)
      (hreported : reported? answer = none)
      (h : (∃ log, (schedule log r).isSome) ∨ wordLimit ≤ g.totalMb s active) :
      Ended g s schedule active [⟨r, active, answer⟩] (.error e) active
  /-- There is enough swap space. -/
  | enough {r : Request} {answer : Answer} (hr : words? r = some look)
      (hreported : reported? answer = some (g.totalMb s active))
      (h : s.minSwapMb ≤ g.totalMb s active) :
      Ended g s schedule active [⟨r, active, answer⟩] (.ok ()) active
  /-- There is too little, and the file is made and put to use, as far as that goes. -/
  | short {r : Request} {answer : Answer} {t : List Sighting} {ends : Except InstallError Unit}
      {active' : Bool} (hr : words? r = some look)
      (hreported : reported? answer = some (g.totalMb s active))
      (h : g.totalMb s active < s.minSwapMb)
      (ht : Issued s schedule (preparations s ++ [switch s]) active t ends.isOk active') :
      Ended g s schedule active (⟨r, active, answer⟩ :: t) ends active'

variable {g : Ground} {s : Settings} {schedule : Schedule} {r : Request} {w : Space} {mishap : Mishap}
  {cache : Cache} {facts : Facts} {active through active' : Bool} {t : List Sighting}

/-! ### Words -/

theorem words?_of_reading {command : String} {words : List String} (elevated : Bool)
    (h : Shell.reading command = some (⟨words, []⟩, none)) :
    words? (change command elevated) = some words := by
  rw [words?, Shell.understood_line (change command elevated)]
  have hbody : (change command elevated).body = command := rfl
  rw [hbody, h]

theorem words?_look : words? (change "free -m" false) = some look :=
  words?_of_reading false (Shell.reading_spelled "free" (by decide) ["-m"])

/-- The commands are read as they are meant, whatever the file is called. -/
theorem words?_swapCommands (s : Settings) :
    (swapCommands s).map (fun command => words? (change command true)) =
      (preparations s ++ [switch s]).map some := by
  have hdd := words?_of_reading true (Shell.reading_zeros s.swapFile s.swapFileSizeMb)
  have hchmod := words?_of_reading true
    (Shell.reading_spelled "chmod" (by decide) ["600", s.swapFile])
  have hmkswap := words?_of_reading true
    (Shell.reading_spelled "mkswap" (by decide) [s.swapFile])
  have hswapon := words?_of_reading true
    (Shell.reading_spelled "swapon" (by decide) [s.swapFile])
  simp only [swapCommands, preparations, switch, List.map_cons, List.map_nil, List.cons_append,
    List.nil_append, List.cons.injEq, and_true]
  exact ⟨hdd, hchmod, hmkswap, hswapon⟩

/-! ### One request -/

theorem execute_of_some (h : schedule w.log r = some mishap) : execute g s schedule r w =
    (mishap.answer, { w with log := w.log ++ [⟨r, w.active, mishap.answer⟩] }) := by
  rw [execute, h]

theorem execute_of_none (h : schedule w.log r = none) : execute g s schedule r w =
    (.ok (g.output s r w), ⟨w.active || words? r == some (switch s),
      w.log ++ [⟨r, w.active, .ok (g.output s r w)⟩]⟩) := by
  rw [execute, h]

theorem exitCode_output : (g.output s r w).exitCode = 0 := by
  unfold Ground.output
  split <;> rfl

/-- A command without effect is a failure where it has to end well. -/
theorem exists_error_of_mishap (r : Request) (mishap : Mishap) :
    ∃ e, Plan.checked r mishap.answer = .error e := by
  cases mishap with
  | lost e => exact ⟨e, rfl⟩
  | exited output h => exact ⟨_, if_neg h⟩

/-! ### One call -/

/-- A command that has no effect is the end of what is done. -/
theorem judge_mishap (r : Request) (mishap : Mishap) (facts : Facts) :
    ∃ e, (Plan.must InstallError.node r facts).judge mishap.answer = .error e := by
  obtain ⟨e, he⟩ := exists_error_of_mishap r mishap
  refine ⟨.node e, ?_⟩
  show ((Plan.checked r mishap.answer).mapError _).bind _ = _
  rw [he]
  rfl

/-- The commands for the file are issued in order. -/
theorem issued_commands (hshort : facts.swapMb.any (· < s.minSwapMb) = true) (commands : List String)
    (words : List (List String))
    (hwords : commands.map (fun command => words? (change command true)) = words.map some) (w : Space) :
    ∃ t answer active', (script (commands.map (swapEntry s)) facts >>= fun _ =>
        (pure () : Step Unit)).runOn (execute g s schedule) cache w =
          ((answer, cache), ⟨active', w.log ++ t⟩) ∧
      Issued s schedule words w.active t answer.isOk active' := by
  induction commands generalizing words w with
  | nil =>
    obtain rfl : words = [] := List.map_eq_nil_iff.mp hwords.symm
    refine ⟨[], .ok (), w.active, ?_, .all _⟩
    rw [List.append_nil]
    rfl
  | cons command commands ih =>
    obtain ⟨first, more, rfl, hfirst, hmore⟩ := List.map_eq_cons_iff.mp hwords.symm
    have hentry : swapEntry s command facts =
        some (Plan.must .node (change command true) facts) := Plan.Item.onlyIf_of_true hshort
    rw [List.map_cons, Plan.script_cons_some hentry, bind_assoc]
    cases hw : schedule w.log (change command true) with
    | some mishap =>
      obtain ⟨e, hjudge⟩ := judge_mishap (change command true) mishap facts
      rw [Node.runOn_turn_of_error rfl (execute_of_some hw) hjudge]
      exact ⟨_, .error e, _, rfl, .stop hfirst.symm hw⟩
    | none =>
      have hexit : (g.output s (change command true) w).exitCode = 0 := exitCode_output
      have hjudge : (Plan.must InstallError.node (change command true) facts).judge
          (.ok (g.output s (change command true) w)) = .ok facts :=
        Plan.judge_of_eq_ok_iff.mpr ⟨_, Plan.checked_of_exitCode hexit, rfl⟩
      have hexec : execute g s schedule (change command true) w =
          (.ok (g.output s (change command true) w), ⟨w.active || first == switch s,
            w.log ++ [⟨change command true, w.active, .ok (g.output s (change command true) w)⟩]⟩) := by
        rw [execute_of_none hw, show words? (change command true) = some first from hfirst.symm]
        rfl
      obtain ⟨t, answer, active', hrun, ht⟩ := ih more hmore.symm
        (execute g s schedule (change command true) w).2
      rw [hexec] at hrun ht
      rw [Node.runOn_turn_of_ok rfl hexec hjudge]
      refine ⟨_ :: t, answer, active', ?_, .next hfirst.symm hexit ht⟩
      rw [hrun, List.append_assoc]
      rfl

/-- The turn of a look. -/
def lookTurn : Plan.Turn Facts InstallError :=
  Plan.note .node (change "free -m" false) fun output =>
    ((readSwapTotal output).mapError .node).map fun total => { swapMb := some total }

/-- What a look reports is what is known then; it fails if it reports nothing. -/
theorem judge_look (answer : Answer) :
    (∃ e, lookTurn.judge answer = .error e ∧ reported? answer = none) ∨
      ∃ total, lookTurn.judge answer = .ok { swapMb := some total } ∧ reported? answer = some total := by
  cases answer with
  | error e => exact Or.inl ⟨.node e, rfl, rfl⟩
  | ok output =>
    by_cases hexit : output.exitCode = 0
    · have hjudge : lookTurn.judge (.ok output) = ((readSwapTotal output.stdout).mapError .node).map
          fun total => { swapMb := some total } := by
        show ((Plan.checked _ _).mapError _).bind _ = _
        rw [Plan.checked_of_exitCode hexit]
        rfl
      have hreported : reported? (.ok output) = (readSwapTotal output.stdout).toOption := if_pos hexit
      rw [hjudge, hreported]
      cases readSwapTotal output.stdout with
      | error e => exact Or.inl ⟨.node e, rfl, rfl⟩
      | ok total => exact Or.inr ⟨total, rfl, rfl⟩
    · cases hjudge : lookTurn.judge (.ok output) with
      | error e => exact Or.inl ⟨e, rfl, if_neg hexit⟩
      | ok facts =>
        obtain ⟨output', hchecked, -⟩ := Plan.judge_of_eq_ok_iff.mp hjudge
        cases (if_neg hexit).symm.trans hchecked

/-- A look changes nothing. It reports the total, unless it has no effect, or there is more than can
be read. -/
theorem execute_look (g : Ground) (s : Settings) (schedule : Schedule) (w : Space) : ∃ answer,
    execute g s schedule (change "free -m" false) w =
      (answer, { w with log := w.log ++ [⟨change "free -m" false, w.active, answer⟩] }) ∧
    (reported? answer = some (g.totalMb s w.active) ∨ reported? answer = none ∧
      ((∃ log, (schedule log (change "free -m" false)).isSome) ∨ wordLimit ≤ g.totalMb s w.active)) := by
  cases hw : schedule w.log (change "free -m" false) with
  | some mishap =>
    refine ⟨mishap.answer, execute_of_some hw, Or.inr ⟨?_, Or.inl ⟨w.log, ?_⟩⟩⟩
    · cases mishap with
      | lost e => rfl
      | exited output h => exact if_neg h
    · rw [hw]
      rfl
  | none =>
    have houtput : g.output s (change "free -m" false) w = ⟨0, g.table w.log (g.totalMb s w.active),
        (g.prints w.log (change "free -m" false)).2⟩ := if_pos words?_look
    have hexec := execute_of_none (g := g) (s := s) hw
    rw [words?_look, houtput, show (some look == some (switch s)) = false from rfl, Bool.or_false] at hexec
    refine ⟨_, hexec, ?_⟩
    have hread := @Node.TellsSwap.readSwapTotal_eq_ok_iff _ _ (g.totalMb s w.active)
      (g.tells w.log (g.totalMb s w.active))
    show Except.toOption (readSwapTotal _) = _ ∨ Except.toOption (readSwapTotal _) = none ∧ _
    cases htotal : readSwapTotal (g.table w.log (g.totalMb s w.active)) with
    | error e =>
      refine Or.inr ⟨rfl, Or.inr (Nat.le_of_not_lt fun hlt => ?_)⟩
      cases htotal.symm.trans (hread.mpr ⟨rfl, hlt⟩)
    | ok n =>
      obtain ⟨rfl, -⟩ := (g.tells _ _).readSwapTotal_eq_ok_iff.mp htotal
      exact Or.inl rfl

/-- A call of the swap stage on a node: its answer, and the node as it leaves it. -/
def call (g : Ground) (s : Settings) (node : Cache × Space) (schedule : Schedule) :
    Except InstallError Unit × (Cache × Space) :=
  let ((answer, cache), w) := (ensureSwap s).runOn (execute g s schedule) node.1 node.2
  (answer, (cache, w))

theorem ensureSwap_eq (s : Settings) : ensureSwap s = lookTurn.script >>= fun facts =>
    script ((swapCommands s).map (swapEntry s)) facts >>= fun _ => pure () := by
  have hplan := @script_swapPlan s {} [] Unit (fun _ => pure ()) (pure ()) fun _ => rfl
  rw [List.append_nil, bind_pure_unit, swapPlan, Plan.script_cons_some rfl, bind_assoc] at hplan
  exact hplan.symm

/-- **One call** comes to what it should, whatever has no effect. -/
theorem ended_call (g : Ground) (s : Settings) (schedule : Schedule) (node : Cache × Space) :
    ∃ t, (call g s node schedule).2.2.log = node.2.log ++ t ∧
      Ended g s schedule node.2.active t (call g s node schedule).1
        (call g s node schedule).2.2.active := by
  obtain ⟨cache, w⟩ := node
  suffices h : ∃ t answer active', (ensureSwap s).runOn (execute g s schedule) cache w =
      ((answer, cache), ⟨active', w.log ++ t⟩) ∧ Ended g s schedule w.active t answer active' by
    obtain ⟨t, answer, active', hrun, ht⟩ := h
    have hcall : call g s (cache, w) schedule = (answer, (cache, ⟨active', w.log ++ t⟩)) := by
      rw [call, hrun]
    rw [hcall]
    exact ⟨t, rfl, ht⟩
  rw [ensureSwap_eq]
  obtain ⟨answer, hexec, hanswer⟩ := execute_look g s schedule w
  rcases judge_look answer with ⟨e, hjudge, hblind⟩ | ⟨total, hjudge, hreported⟩
  · refine ⟨_, .error e, w.active, Node.runOn_turn_of_error rfl hexec hjudge cache,
      .blind words?_look hblind ?_⟩
    rw [hblind] at hanswer
    exact (hanswer.resolve_left nofun).2
  · obtain rfl : total = g.totalMb s w.active := by
      rw [hreported] at hanswer
      exact Option.some.inj (hanswer.resolve_right fun h => nomatch h.1)
    rw [Node.runOn_turn_of_ok rfl hexec hjudge]
    by_cases hshort : g.totalMb s w.active < s.minSwapMb
    · have hknown : ({ swapMb := some (g.totalMb s w.active) } : Facts).swapMb.any
          (· < s.minSwapMb) = true := by simpa using hshort
      obtain ⟨t, ends, active', hrun, ht⟩ := issued_commands hknown (swapCommands s) _
        (words?_swapCommands s) _
      refine ⟨_ :: t, ends, active', hrun.trans ?_, .short words?_look hreported hshort ht⟩
      rw [List.append_assoc]
      rfl
    · have hskip : ∀ item ∈ (swapCommands s).map (swapEntry s),
          item { swapMb := some (g.totalMb s w.active) } = none := by
        intro item hitem
        obtain ⟨command, -, rfl⟩ := List.mem_map.mp hitem
        exact Plan.Item.onlyIf_of_false (by simpa using hshort)
      rw [← List.append_nil (List.map _ _), Plan.script_append_none hskip]
      exact ⟨_, .ok (), w.active, rfl, .enough words?_look hreported (Nat.le_of_not_lt hshort)⟩

/-! ## Many calls -/

/-- A node after calls of the swap stage, in each of which other commands have no effect. -/
def after (g : Ground) (s : Settings) (node : Cache × Space) (schedules : List Schedule) :
    Cache × Space :=
  schedules.foldl (fun node schedule => (call g s node schedule).2) node

/-- With the file in use, there is enough, since valid settings have a file that is. -/
theorem minSwapMb_le_totalMb (h : s.fault? = none) (g : Ground) : s.minSwapMb ≤ g.totalMb s true :=
  (Settings.fault?_eq_none_iff.mp h).swap.trans (Nat.le_add_left _ _)

/-- The file is not in use while commands are issued of which only the last can put it to use. -/
theorem Issued.unused {words : List (List String)} (hwords : ∀ ws ∈ words, ws ≠ switch s)
    (h : Issued s schedule (words ++ [switch s]) false t through active') :
    (∀ x ∈ t, x.active = false) ∧ (through = true → active' = true) := by
  induction words generalizing t with
  | nil =>
    cases h with
    | stop => exact ⟨List.forall_mem_singleton.mpr rfl, nofun⟩
    | next _ _ ht =>
      cases ht with
      | all => exact ⟨List.forall_mem_singleton.mpr rfl, fun _ => by simp⟩
  | cons ws words ih =>
    obtain ⟨hfirst, hwords⟩ := List.forall_mem_cons.mp hwords
    cases h with
    | stop => exact ⟨List.forall_mem_singleton.mpr rfl, nofun⟩
    | next _ _ ht =>
      rw [beq_eq_false_iff_ne.mpr hfirst, Bool.or_false] at ht
      obtain ⟨hmore, hthrough⟩ := ih hwords ht
      exact ⟨List.forall_mem_cons.mpr ⟨rfl, hmore⟩, hthrough⟩

theorem ne_switch_of_mem_preparations : ∀ ws ∈ preparations s, ws ≠ switch s := by
  have hheads : ∀ ws ∈ preparations s, ws.head? ∈ [some "dd", some "chmod", some "mkswap"] := by
    simp [preparations]
  rintro ws hws rfl
  have hswitch := hheads _ hws
  simp [switch] at hswitch

/-- Commands of which each has an effect are all issued. -/
theorem Issued.of_undisturbed {words : List (List String)} (hschedule : ∀ log r, schedule log r = none)
    (h : Issued s schedule words active t through active') : through = true := by
  induction h with
  | all => rfl
  | stop _ h => cases (hschedule _ _).symm.trans h
  | next _ _ _ ih => exact ih

variable {ends : Except InstallError Unit}

/-- A call puts the file to use or leaves it as it is; with the file in use it only looks. -/
theorem Ended.spares (hvalid : s.fault? = none) (h : Ended g s schedule active t ends active') :
    (∀ x ∈ t, x.active = true → words? x.request = some look) ∧ (active = true → active' = true) := by
  cases h with
  | blind hr => exact ⟨List.forall_mem_singleton.mpr fun _ => hr, id⟩
  | enough hr => exact ⟨List.forall_mem_singleton.mpr fun _ => hr, id⟩
  | short hr _ hshort ht =>
    cases active with
    | true => exact absurd hshort (Nat.not_lt.mpr (minSwapMb_le_totalMb hvalid g))
    | false =>
      have hunused := (ht.unused ne_switch_of_mem_preparations).1
      refine ⟨List.forall_mem_cons.mpr ⟨fun _ => hr, fun x hx hactive => ?_⟩, nofun⟩
      cases (hunused x hx).symm.trans hactive

/-- A call that ends well leaves enough. -/
theorem Ended.suffices (hvalid : s.fault? = none) (h : Ended g s schedule active t (.ok ()) active') :
    s.minSwapMb ≤ g.totalMb s active' := by
  cases h with
  | enough _ _ henough => exact henough
  | short _ _ hshort ht =>
    cases active with
    | true => exact absurd hshort (Nat.not_lt.mpr (minSwapMb_le_totalMb hvalid g))
    | false =>
      rw [(ht.unused ne_switch_of_mem_preparations).2 rfl]
      exact minSwapMb_le_totalMb hvalid g

/-- Where there is enough, a call only looks. -/
theorem Ended.only_looks (h : Ended g s schedule active t ends active')
    (henough : s.minSwapMb ≤ g.totalMb s active) :
    active' = active ∧ ∃ x, t = [x] ∧ words? x.request = some look := by
  cases h with
  | blind hr => exact ⟨rfl, _, rfl, hr⟩
  | enough hr => exact ⟨rfl, _, rfl, hr⟩
  | short _ _ hshort => exact absurd hshort (Nat.not_lt.mpr henough)

/-- A call that nothing disturbs ends well, if the total can be read. -/
theorem Ended.of_undisturbed (h : Ended g s schedule active t ends active')
    (hschedule : ∀ log r, schedule log r = none) (hread : g.totalMb s active < wordLimit) :
    ends = .ok () := by
  cases h with
  | blind _ _ h =>
    rcases h with ⟨log, h⟩ | h
    · rw [hschedule] at h
      cases h
    · exact absurd hread (Nat.not_lt.mpr h)
  | enough => rfl
  | short _ _ _ ht =>
    have hthrough := ht.of_undisturbed hschedule
    cases ends with
    | ok => rfl
    | error e => cases hthrough

variable {node : Cache × Space} {schedules : List Schedule}

/-- The node has seen nothing but looks while the file was in use. -/
def Spared (w : Space) : Prop := ∀ x ∈ w.log, x.active = true → words? x.request = some look

/-- One call spares a swap file in use. -/
theorem spared_call (hvalid : s.fault? = none) (h : Spared node.2) (schedule : Schedule) :
    Spared (call g s node schedule).2.2 := by
  obtain ⟨t, hlog, hended⟩ := ended_call g s schedule node
  intro x hx
  rw [hlog] at hx
  exact (List.mem_append.mp hx).elim (h x) ((hended.spares hvalid).1 x)

/-- So does any number of calls. -/
theorem spared_after (hvalid : s.fault? = none) (h : Spared node.2) (schedules : List Schedule) :
    Spared (after g s node schedules).2 := by
  induction schedules generalizing node with
  | nil => exact h
  | cons schedule schedules ih => exact ih (spared_call hvalid h schedule)

/-- Where there is enough, no number of calls changes that. -/
theorem active_after (henough : s.minSwapMb ≤ g.totalMb s node.2.active) (schedules : List Schedule) :
    (after g s node schedules).2.active = node.2.active := by
  induction schedules generalizing node with
  | nil => rfl
  | cons schedule schedules ih =>
    obtain ⟨t, -, hended⟩ := ended_call g s schedule node
    have hactive := (hended.only_looks henough).1
    rw [← hactive] at henough
    exact (ih henough).trans hactive

/-- **A swap file in use is never overwritten.** After any number of calls on a node whose swap file is
not in use at first, in each of which any commands have no effect: the node has seen nothing but looks
while the file was in use, and the next call comes to what it should. Once a call has ended well, there
is enough swap space, and every later call only looks. A call in which every command has an effect ends
well, if the total can be read. -/
theorem ensureSwap_spares_active (g : Ground) (s : Settings) (hvalid : s.fault? = none) (cache : Cache)
    (schedules : List Schedule) (schedule : Schedule) :
    let node := after g s (cache, {}) schedules
    let next := call g s node schedule
    (∀ x ∈ node.2.log, x.active = true → words? x.request = some look) ∧
    (∃ t, next.2.2.log = node.2.log ++ t ∧
      Ended g s schedule node.2.active t next.1 next.2.2.active) ∧
    (next.1 = .ok () → ∀ (later : List Schedule) (schedule' : Schedule),
      let done := after g s (cache, {}) (schedules ++ schedule :: later)
      s.minSwapMb ≤ g.totalMb s done.2.active ∧
      ∃ x, (call g s done schedule').2.2.log = done.2.log ++ [x] ∧ words? x.request = some look) ∧
    ((∀ log r, schedule log r = none) → g.totalMb s node.2.active < wordLimit → next.1 = .ok ()) := by
  intro node next
  obtain ⟨t, hlog, hended⟩ := ended_call g s schedule node
  have hfirst : Spared (cache, ({} : Space)).2 := fun x hx => absurd hx List.not_mem_nil
  refine ⟨spared_after hvalid hfirst schedules, ⟨t, hlog, hended⟩, fun hok later schedule' => ?_,
    hended.of_undisturbed⟩
  intro done
  have hdone : done = after g s next.2 later := List.foldl_append
  have henough : s.minSwapMb ≤ g.totalMb s next.2.2.active := by
    have hended' : Ended g s schedule node.2.active t next.1 next.2.2.active := hended
    rw [hok] at hended'
    exact hended'.suffices hvalid
  have hactive : done.2.active = next.2.2.active := hdone ▸ active_after henough later
  rw [← hactive] at henough
  obtain ⟨t', hlog', hended'⟩ := ended_call g s schedule' done
  obtain ⟨-, x, rfl, hx⟩ := hended'.only_looks henough
  exact ⟨henough, x, hlog', hx⟩

/-- A table as `free` prints it. -/
def freeTable (total : Nat) : String :=
  "       total   used\nMem:    3925    310\nSwap:   " ++ total.repr ++ "      0\n"

theorem tellsSwap_freeTable (total : Nat) : Node.TellsSwap (freeTable total) total := by
  have htext : (freeTable total).toList = "       total   used".toList ++ '\n' ::
      ("Mem:    3925    310".toList ++ '\n' ::
        (("Swap:".toList ++ ("   ".toList ++ (total.repr.toList ++ "      0".toList))) ++ '\n' :: [])) := by
    have hhead : "       total   used\nMem:    3925    310\nSwap:   ".toList =
        "       total   used".toList ++ '\n' :: ("Mem:    3925    310".toList ++ '\n' ::
          ("Swap:".toList ++ "   ".toList)) := by decide +kernel
    have hend : "      0\n".toList = "      0".toList ++ ['\n'] := by decide +kernel
    unfold freeTable
    simp only [String.toList_append, hhead, hend, List.append_assoc, List.cons_append]
  have hrow : ∀ c, c.isDigit = false → c ∉ "Swap:".toList ++ "   ".toList ++ "      0".toList →
      c ∉ "Swap:".toList ++ ("   ".toList ++ (total.repr.toList ++ "      0".toList)) := by
    intro c hdigit hother
    have hnumeral := Text.Numeral.not_mem_of_isDigits (Text.Numeral.isDigits_repr total).1 hdigit
    simp only [List.mem_append, not_or] at hother ⊢
    exact ⟨hother.1.1, hother.1.2, hnumeral, hother.2⟩
  refine ⟨["       total   used".toList, "Mem:    3925    310".toList], _, [], ?_, by decide +kernel,
    [], "   ".toList, "      0".toList, rfl, List.all_eq_true.mp (by decide), ?_⟩
  · rw [htext, Text.lines_append_lineFeed (by decide) (by decide),
      Text.lines_append_lineFeed (by decide) (by decide),
      Text.lines_append_lineFeed (hrow _ (by decide) (by decide)) (hrow _ (by decide) (by decide))]
    rfl
  · rintro c ⟨⟩
    decide

/-- A node without swap space of its own. -/
def bare : Ground := ⟨0, fun _ => freeTable, fun _ => tellsSwap_freeTable, fun _ _ => ("", "")⟩

/-- The fifth request is lost: the file is made, and not put to use. -/
def cutOff : Schedule := fun log _ => if log.length = 4 then some (.lost (.io "broken pipe")) else none

theorem spares_after_cut_off : ({} : Settings).fault? = none ∧
    (∀ x ∈ (after bare {} ({}, {}) [cutOff]).2.log, x.active = true → words? x.request = some look) ∧
    (call bare {} (after bare {} ({}, {}) [cutOff]) fun _ _ => none).1 = .ok () := by
  have hvalid : ({} : Settings).fault? = none := by decide +kernel
  have hread : ∀ active, bare.totalMb {} active < wordLimit := by decide
  obtain ⟨hlooks, -, -, hok⟩ := ensureSwap_spares_active bare {} hvalid {} [cutOff] fun _ _ => none
  exact ⟨hvalid, hlooks, hok (fun _ _ => rfl) (hread _)⟩

end Install.Swap

end Testbed

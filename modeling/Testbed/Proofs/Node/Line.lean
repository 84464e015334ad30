import Testbed.Proofs.Node.Commands

/-!
# Which requests share a line

A node remembers results by the line of a request, into which the directory and the elevation are
folded. So it takes two requests for one if they have the same line.

* `Request.SameKind`: both requests are elevated or none is, and both have a directory or none has.
* `Request.Same`: both requests are for one command, in one directory and with the same rights.
* `Node.firstResult?`: the first result that a log has of just this command in this directory.

Results:
* `quote_injective`: no two texts are quoted alike.
* `line_eq_iff`: two requests of one kind share a line just if they agree in command and directory.
* `line_eq_iff_spells_out`: one of another kind shares a line just if its command spells it out.
* `lookup_results`: what the log gives to a line, it gives to a command in a directory.

Headline: **`remembers_commands`**: what is remembered by lines is remembered by commands and
directories.
-/

namespace Testbed

namespace Shell

/-- **No two texts are quoted alike**: a shell reads each back. -/
theorem quote_injective : Function.Injective quote := by
  intro s s' h
  have hone : ∀ t, quote t = spelled [t] := by
    intro t
    simp [spelled]
  have hs := scan_spelled_end (List.cons_ne_nil s [])
  rw [← hone, h, hone, scan_spelled_end (List.cons_ne_nil s' [])] at hs
  have htokens : wordTokens [s'] = wordTokens [s] := congrArg Prod.fst (Option.some.inj hs)
  unfold wordTokens at htokens
  simp only [List.map_cons, List.map_nil, List.cons.injEq, Token.word.injEq, and_true] at htokens
  exact (String.toList_injective htokens).symm

end Shell

namespace Request

open Shell (quote understood)

/-- Two requests of one kind: both elevated or none, both in a directory or none. -/
structure SameKind (r r' : Request) : Prop where
  elevated : r.elevated = r'.elevated
  directory : r.directory.isSome = r'.directory.isSome

variable {r r' : Request} {directory : String}

/-- Elevated or not, lines are the same just if the commands in their directories are. -/
theorem line_eq_iff_body (h : r.elevated = r'.elevated) : r.line = r'.line ↔ r.body = r'.body := by
  unfold line
  rw [← h]
  by_cases helevated : r.elevated = true
  · rw [if_pos helevated, if_pos helevated, String.append_right_inj]
    exact Shell.quote_injective.eq_iff
  · rw [if_neg helevated, if_neg helevated]

theorem understood_of_directory (h : r.directory = some directory) :
    understood r.elevated r.line = some (⟨["cd", directory], []⟩, some (" " ++ r.command)) := by
  have hr : { r with directory := some directory } = r := by rw [← h]
  have hline := Node.understood_inside r directory
  rwa [hr] at hline

/-- **Requests of one kind** share a line just if they agree in command and directory: a shell takes
the directory off the line again, and what follows it is the command. -/
theorem line_eq_iff (h : r.SameKind r') :
    r.line = r'.line ↔ r.command = r'.command ∧ r.directory = r'.directory := by
  obtain ⟨helevated, hkind⟩ := h
  cases hdirectory : r.directory with
  | none =>
    have hdirectory' : r'.directory = none := by
      rw [hdirectory] at hkind
      exact Option.not_isSome_iff_eq_none.mp (by rw [← hkind]; decide)
    have hbody : r.body = r.command := by unfold body; rw [hdirectory]
    have hbody' : r'.body = r'.command := by unfold body; rw [hdirectory']
    rw [line_eq_iff_body helevated, hbody, hbody', hdirectory']
    exact ⟨fun hcommand => ⟨hcommand, rfl⟩, And.left⟩
  | some d =>
    have hsome : r'.directory.isSome = true := by rw [← hkind, hdirectory]; rfl
    obtain ⟨d', hdirectory'⟩ := Option.isSome_iff_exists.mp hsome
    rw [hdirectory']
    constructor
    · intro hline
      have hread := understood_of_directory hdirectory
      rw [hline, helevated, understood_of_directory hdirectory'] at hread
      simp only [Option.some.injEq, Prod.mk.injEq, Shell.Command.mk.injEq, List.cons.injEq,
        String.append_right_inj, true_and, and_true] at hread
      exact ⟨hread.2.symm, by rw [hread.1]⟩
    · rintro ⟨hcommand, hsame⟩
      rw [line_eq_iff_body helevated]
      unfold body
      rw [hdirectory, hdirectory', hcommand, Option.some.inj hsame]

/-- **A request without a directory** shares its line with one that has a directory just if its
command spells the change to this directory out. -/
theorem line_eq_iff_spells_out (helevated : r.elevated = r'.elevated) (hnone : r.directory = none)
    (hsome : r'.directory = some directory) :
    r.line = r'.line ↔ r.command = "cd " ++ quote directory ++ " && " ++ r'.command := by
  rw [line_eq_iff_body helevated]
  unfold body
  rw [hnone, hsome]

/-- Two requests for the same: one command, in one directory and with the same rights. -/
structure Same (r r' : Request) : Prop where
  elevated : r.elevated = r'.elevated
  command : r.command = r'.command
  directory : r.directory = r'.directory

instance (r r' : Request) : Decidable (r.Same r') :=
  decidable_of_iff (r.elevated = r'.elevated ∧ r.command = r'.command ∧ r.directory = r'.directory)
    ⟨fun ⟨helevated, hcommand, hdirectory⟩ => ⟨helevated, hcommand, hdirectory⟩,
      fun ⟨helevated, hcommand, hdirectory⟩ => ⟨helevated, hcommand, hdirectory⟩⟩

theorem Same.sameKind (h : r.Same r') : r.SameKind r' := ⟨h.elevated, by rw [h.directory]⟩

/-- Requests of one kind share a line just if they are for the same. -/
theorem line_eq_iff_same (h : r.SameKind r') : r.line = r'.line ↔ r.Same r' := by
  rw [line_eq_iff h]
  constructor
  · rintro ⟨hcommand, hdirectory⟩
    exact ⟨h.elevated, hcommand, hdirectory⟩
  · rintro ⟨-, hcommand, hdirectory⟩
    exact ⟨hcommand, hdirectory⟩

end Request

namespace Node

/-- The first result that a log has of a request for the same that was not forced. -/
def firstResult? (log : List Exchange) (r : Request) : Option Output :=
  log.findSome? fun (r', answer) =>
    if r'.forced = false ∧ r'.Same r then answer.toOption else none

/-- **What a log gives to a line**, it gives to the request, if no request of another kind has this
line. -/
theorem lookup_results {log : List Exchange} {r : Request}
    (h : ∀ x ∈ log, x.1.line = r.line → x.1.SameKind r) :
    (log.filterMap settled).lookup r.line = firstResult? log r := by
  induction log with
  | nil => rfl
  | cons x log ih =>
    obtain ⟨hx, hlog⟩ := List.forall_mem_cons.mp h
    obtain ⟨r', answer⟩ := x
    have hsame : r.line = r'.line ↔ r'.Same r :=
      ⟨fun hline => (Request.line_eq_iff_same (hx hline.symm)).mp hline.symm,
        fun hsame => ((Request.line_eq_iff_same hsame.sameKind).mpr hsame).symm⟩
    unfold firstResult? at ih ⊢
    rw [List.filterMap_cons, List.findSome?_cons, ← ih hlog]
    cases answer with
    | error e =>
      have hnone : (Except.error e : Answer).toOption = none := rfl
      simp only [settled, hnone, ite_self]
    | ok output =>
      have hsome : (Except.ok output : Answer).toOption = some output := rfl
      by_cases hforced : r'.forced = true
      · simp [settled, hforced]
      · rw [Bool.not_eq_true] at hforced
        by_cases hline : r.line = r'.line
        · simp [settled, hforced, hsome, hsame.mp hline, hline]
        · have hbeq : (r.line == r'.line) = false := beq_eq_false_iff_ne.mpr hline
          simp [settled, hforced, mt hsame.mpr hline, List.lookup_cons, hbeq]

/-- **What is remembered by lines is remembered by commands and directories.** Two requests of one
kind have the same line just if they agree in command and directory, whatever these texts hold; a
request without a directory has the line of one that has a directory just if its command spells the
change to it out. So whatever has been called on a fresh node, over any world: if no request of
another kind has its line, a request is answered from memory just with the first result of a request
for the same. -/
theorem remembers_commands :
    (∀ r r' : Request, r.elevated = r'.elevated → r.directory.isSome = r'.directory.isSome →
      (r.line = r'.line ↔ r.command = r'.command ∧ r.directory = r'.directory)) ∧
    (∀ (r r' : Request) (directory : String), r.elevated = r'.elevated → r.directory = none →
      r'.directory = some directory →
      (r.line = r'.line ↔ r.command = "cd " ++ Shell.quote directory ++ " && " ++ r'.command)) ∧
    ∀ (σ : Type) (exec : Request → StateM σ Answer) (st : σ) (calls : List Call) (r : Request),
      (∀ x ∈ (session exec st calls).log, x.1.line = r.line → x.1.SameKind r) →
      (session exec st calls).cache.recalled? r =
        if r.forced then none else firstResult? (session exec st calls).log r := by
  refine ⟨fun r r' helevated hdirectory => Request.line_eq_iff ⟨helevated, hdirectory⟩,
    fun r r' directory => Request.line_eq_iff_spells_out, ?_⟩
  intro σ exec st calls r h
  have hfirst := (kept_session exec st calls).remembers.first r.line
  unfold Session.results at hfirst
  rw [Cache.recalled?, hfirst, lookup_results h]

example : (⟨"b && ls", false, false, some "a", none⟩ : Request).line = "cd a && b && ls" ∧
    (⟨"ls", false, false, some "a && b", none⟩ : Request).line = "cd 'a && b' && ls" := by
  decide +kernel

end Node

end Testbed

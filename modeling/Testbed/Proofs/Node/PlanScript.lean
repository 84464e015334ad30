import Testbed.Node.Files
import Testbed.Proofs.Node.Plan

/-!
# The script of a plan

A plan is carried out by a script that takes the turns of its items one after another.

* `script`: the script that goes through a plan.
* `Item.within`: an item as one of a larger plan.

Results:
* `plays_script_iff`: the script of a plan plays just the exchanges that follow the plan.
* `script_cons_must`, `script_cons_note`, `script_cons_probe`, `script_cons_tolerate`: the operations
  on a node that the items of a plan stand for.
* `script_within`: a plan as a part of a larger one.
-/

namespace Testbed

open Node (Exchange Plays)

namespace Plan

variable {F G α ε δ : Type} {item : Item F ε} {plan rest : List (Item F ε)} {facts facts' : F}
  {t : List Exchange} {outcome : Except ε F} {turn : Turn F ε} {r : Request}

/-- The script that takes a turn. -/
def Turn.script (turn : Turn F ε) : NodeScript ε F :=
  ExceptT.mk (.ask turn.request fun answer => .done (turn.judge answer))

/-- The script that goes through an item. -/
def Item.script (item : Item F ε) (facts : F) : NodeScript ε F :=
  match item facts with
  | none => pure facts
  | some turn => turn.script

/-- The script that goes through a plan. -/
def script : List (Item F ε) → F → NodeScript ε F
  | [], facts => pure facts
  | item :: plan, facts => do
    let facts ← item.script facts
    script plan facts

theorem script_append (facts : F) :
    script (plan ++ rest) facts = script plan facts >>= script rest := by
  induction plan generalizing facts with
  | nil => exact (pure_bind facts (script rest)).symm
  | cons item plan ih =>
    rw [List.cons_append, script, script, bind_assoc]
    exact congrArg _ (funext ih)

theorem script_cons_none (h : item facts = none) :
    script (item :: rest) facts = script rest facts := by
  rw [script, Item.script, h]
  exact pure_bind facts (script rest)

theorem script_cons_some (h : item facts = some turn) :
    script (item :: rest) facts = turn.script >>= script rest := by
  rw [script, Item.script, h]

theorem run_turn_bind (f : F → NodeScript ε α) : (turn.script >>= f).run =
    .ask turn.request fun answer =>
      match turn.judge answer with
      | .ok facts => (f facts).run
      | .error e => .done (.error e) := by
  refine congrArg (Script.ask turn.request) (funext fun answer => ?_)
  show ExceptT.bindCont f (turn.judge answer) = _
  cases turn.judge answer <;> rfl

/-- What is made of a turn is a turn with the same request. -/
theorem script_bind_mk (turn : Turn F ε) (more : F → Except ε α) :
    (turn.script >>= fun facts => ExceptT.mk (pure (more facts))) =
      Turn.script ⟨turn.request, fun answer => (turn.judge answer).bind more⟩ := by
  refine ExceptT.ext ?_
  rw [run_turn_bind]
  refine congrArg (Script.ask turn.request) (funext fun answer => ?_)
  show _ = Script.done ((turn.judge answer).bind more)
  cases turn.judge answer <;> rfl

/-- **The script of a plan follows the plan**, whatever it is answered, and does nothing else. -/
theorem plays_script_iff : Plays (script plan facts).run t outcome ↔ Follows plan facts t outcome := by
  induction plan generalizing facts t with
  | nil =>
    constructor
    · rintro ⟨⟩
      exact .finish facts
    · rintro ⟨⟩
      exact .done _
  | cons item plan ih =>
    cases h : item facts with
    | none => rw [script_cons_none h, ih, follows_cons_none h]
    | some turn =>
      rw [script_cons_some h, run_turn_bind, follows_cons_some h]
      constructor
      · rintro (_ | hp)
        rename_i answer u
        refine ⟨answer, u, rfl, ?_⟩
        cases ha : turn.judge answer with
        | ok facts' =>
          simp only [ha] at hp
          exact Or.inr ⟨facts', rfl, ih.mp hp⟩
        | error e =>
          simp only [ha] at hp
          cases hp
          exact Or.inl ⟨e, rfl, rfl, rfl⟩
      · rintro ⟨answer, u, rfl, ⟨e, ha, rfl, rfl⟩ | ⟨facts', ha, ht⟩⟩
        · refine .ask ?_
          simp only [ha]
          exact .done _
        · refine .ask ?_
          simp only [ha]
          exact ih.mpr ht

/-- What is made of the outcome changes nothing in what is asked. -/
theorem plays_map_script_iff {f : F → α} {answer : Except ε α} :
    Plays (f <$> script plan facts).run t answer ↔
      ∃ outcome, Follows plan facts t outcome ∧ answer = outcome.map f := by
  rw [ExceptT.run_map, Node.plays_map_iff]
  simp only [plays_script_iff]

/-! ## Operations as turns -/

theorem adapt_script (wrap : ε → δ) (turn : Turn F ε) : ExceptT.adapt wrap turn.script =
    Turn.script ⟨turn.request, fun answer => (turn.judge answer).mapError wrap⟩ := rfl

theorem execute_eq : Node.execute r = Turn.script ⟨r, fun answer => answer⟩ := rfl

theorem executeChecked_eq : Node.executeChecked r = Turn.script ⟨r, checked r⟩ := by
  refine congrArg (Script.ask r) (funext fun answer => ?_)
  cases answer with
  | error e => rfl
  | ok output =>
    have hs : output.succeeded = decide (output.exitCode = 0) := rfl
    show ExceptT.run (if output.succeeded then pure output else throw _) =
      Script.done (if _ then _ else _)
    by_cases h : output.exitCode = 0
    · rw [if_pos h, if_pos (hs.trans (decide_eq_true h))]
      rfl
    · rw [if_neg h, if_neg (by rw [hs, decide_eq_false h]; exact Bool.false_ne_true)]
      rfl

theorem isPresent_eq {path : String} {elevated : Bool} : Node.isPresent path elevated =
    Turn.script ⟨probeRequest path elevated, probed path⟩ := by
  refine congrArg (Script.ask (probeRequest path elevated)) (funext fun answer => ?_)
  cases answer with
  | error e => rfl
  | ok output =>
    show ExceptT.run (if _ then pure true else if _ then pure false else throw _) =
      Script.done (if _ then _ else if _ then _ else _)
    by_cases h0 : output.exitCode = 0
    · rw [if_pos h0, if_pos h0]
      rfl
    · rw [if_neg h0, if_neg h0]
      by_cases h1 : output.exitCode = 1
      · rw [if_pos h1, if_pos h1]
        rfl
      · rw [if_neg h1, if_neg h1]
        rfl

theorem adapt_bind {β : Type} (wrap : ε → δ) (x : NodeScript ε α) (f : α → NodeScript ε β) :
    ExceptT.adapt wrap (x >>= f) = ExceptT.adapt wrap x >>= fun a => ExceptT.adapt wrap (f a) := by
  refine ExceptT.ext ?_
  rw [ExceptT.run_adapt, ExceptT.run_bind, ExceptT.run_bind, ExceptT.run_adapt, map_bind,
    bind_map_left]
  refine congrArg _ (funext fun result => ?_)
  cases result <;> rfl

theorem adapt_adapt {γ : Type} (wrap : ε → δ) (wrap' : δ → γ) (x : NodeScript ε α) :
    ExceptT.adapt wrap' (ExceptT.adapt wrap x) = ExceptT.adapt (fun e => wrap' (wrap e)) x := by
  refine ExceptT.ext ?_
  rw [ExceptT.run_adapt, ExceptT.run_adapt, ExceptT.run_adapt, Functor.map_map]
  refine congrArg (· <$> x.run) (funext fun result => ?_)
  cases result <;> rfl

variable {wrap : NodeError → ε} {judge : Answer → Except NodeError α} {more : α → Except ε F}

theorem script_cons_of (h : item facts = some (.of wrap r judge more)) :
    script (item :: rest) facts = ExceptT.adapt wrap (Turn.script ⟨r, judge⟩) >>= fun x =>
      ExceptT.mk (pure (more x)) >>= script rest := by
  rw [script_cons_some h, adapt_script]
  refine ExceptT.ext ?_
  rw [run_turn_bind, run_turn_bind]
  refine congrArg (Script.ask r) (funext fun answer => ?_)
  simp only [Turn.of]
  cases (judge answer).mapError wrap with
  | error e => rfl
  | ok x =>
    simp only [Except.bind]
    cases more x <;> rfl

theorem script_cons_must (h : item facts = some (must wrap r facts')) :
    script (item :: rest) facts =
      ExceptT.adapt wrap (Node.executeChecked r) >>= fun _ => script rest facts' := by
  rw [script_cons_of h, executeChecked_eq]
  rfl

theorem script_cons_note {read : String → Except ε F} (h : item facts = some (note wrap r read)) :
    script (item :: rest) facts = ExceptT.adapt wrap (Node.executeChecked r) >>= fun output =>
      ExceptT.mk (pure (read output.stdout)) >>= script rest := by
  rw [script_cons_of h, executeChecked_eq]

theorem script_cons_probe {path : String} {elevated : Bool} {tell : Bool → Except ε F}
    (h : item facts = some (probe wrap path elevated tell)) :
    script (item :: rest) facts = ExceptT.adapt wrap (Node.isPresent path elevated) >>= fun b =>
      ExceptT.mk (pure (tell b)) >>= script rest := by
  rw [script_cons_of h, isPresent_eq]

theorem script_cons_tolerate (h : item facts = some (tolerate wrap r facts')) :
    script (item :: rest) facts =
      ExceptT.adapt wrap (Node.execute r) >>= fun _ => script rest facts' := by
  rw [script_cons_of h, execute_eq]
  rfl

/-- A change of the node. -/
theorem script_cons_perform {command : String} {elevated : Bool}
    (h : item facts = some (must wrap (Node.change command elevated) facts')) :
    script (item :: rest) facts =
      ExceptT.adapt wrap (Node.perform command elevated) >>= fun _ => script rest facts' := by
  rw [script_cons_must h, Node.perform, adapt_bind, bind_assoc]
  rfl

/-- The content of a file. -/
theorem script_cons_readText {path : String} {elevated forced : Bool} {read : String → Except ε F}
    (h : item facts = some (note wrap
      ⟨"cat " ++ Shell.quote path, elevated, forced, none, none⟩ read)) :
    script (item :: rest) facts =
      ExceptT.adapt wrap (Node.readText path elevated forced) >>= fun text =>
        ExceptT.mk (pure (read text)) >>= script rest := by
  rw [script_cons_note h, Node.readText, adapt_bind, bind_assoc]
  rfl

theorem mk_ok_bind (x : F) (f : F → NodeScript ε α) :
    (ExceptT.mk (pure (.ok x)) : NodeScript ε F) >>= f = f x := rfl

/-- What is made of what a command tells may be made in two steps. -/
theorem mk_map_bind (x : Except ε F) (update : F → G) (f : G → NodeScript ε α) :
    ExceptT.mk (pure (x.map update)) >>= f =
      (ExceptT.mk (pure x) : NodeScript ε F) >>= fun a => f (update a) := by
  cases x <;> rfl

/-- What a command tells. -/
theorem script_cons_learn {β : Type} {read : String → Except NodeError β} {update : β → F}
    (h : item facts = some (note wrap r fun text => ((read text).mapError wrap).map update)) :
    script (item :: rest) facts =
      ExceptT.adapt wrap (Node.executeChecked r >>= fun output =>
        ExceptT.mk (pure (read output.stdout))) >>= fun x => script rest (update x) := by
  rw [script_cons_note h, adapt_bind, bind_assoc]
  refine congrArg _ (funext fun output => ?_)
  cases read output.stdout <;> rfl

/-- Items without a turn are passed over. -/
theorem script_append_none (h : ∀ item ∈ plan, item facts = none) :
    script (plan ++ rest) facts = script rest facts := by
  induction plan with
  | nil => rfl
  | cons item plan ih =>
    obtain ⟨hitem, hplan⟩ := List.forall_mem_cons.mp h
    rw [List.cons_append, script_cons_none hitem, ih hplan]

/-- Items that stand for the same operation on several things. -/
theorem script_map_append {β : Type} {entry : β → Item F ε} {operation : β → NodeScript ε Unit}
    (h : ∀ b rest, script (entry b :: rest) facts = operation b >>= fun _ => script rest facts)
    (bs : List β) : script (bs.map entry ++ rest) facts =
      bs.forM operation >>= fun _ => script rest facts := by
  induction bs with
  | nil => rfl
  | cons b bs ih => rw [List.map_cons, List.cons_append, h, ih, List.forM, bind_assoc]

/-! ## Plans within plans -/

/-- An item as one of a larger plan, whose turns it takes only where `applies`, on a part of what is
known there. -/
def Item.within (applies : G → Bool) (part : G → F) (update : G → F → G) (wrap : ε → δ)
    (item : Item F ε) : Item G δ := fun facts =>
  if applies facts then
    (item (part facts)).map fun turn =>
      ⟨turn.request, fun answer => ((turn.judge answer).mapError wrap).map (update facts)⟩
  else none

/-- **A plan within a plan** is passed over where it does not apply, and otherwise followed. -/
theorem script_within {applies : G → Bool} {part : G → F} {update : G → F → G} {wrap : ε → δ}
    (happlies : ∀ g x, applies (update g x) = applies g) (hpart : ∀ g x, part (update g x) = x)
    (hupdate : ∀ g x y, update (update g x) y = update g y)
    (hsame : ∀ g, update g (part g) = g) (plan : List (Item F ε)) (g : G) :
    script (plan.map (Item.within applies part update wrap)) g =
      if applies g then update g <$> ExceptT.adapt wrap (script plan (part g)) else pure g := by
  by_cases hg : applies g = true
  · rw [if_pos hg]
    induction plan generalizing g with
    | nil =>
      show pure g = pure (update g (part g))
      rw [hsame]
    | cons item plan ih =>
      rw [List.map_cons]
      cases h : item (part g) with
      | none =>
        rw [script_cons_none h, script_cons_none (by rw [Item.within, if_pos hg, h]; rfl), ih g hg]
      | some turn =>
        rw [script_cons_some h, adapt_bind, map_bind,
          script_cons_some (by rw [Item.within, if_pos hg, h]; rfl), adapt_script]
        refine ExceptT.ext ?_
        rw [run_turn_bind, run_turn_bind]
        refine congrArg (Script.ask turn.request) (funext fun answer => ?_)
        simp only
        cases (turn.judge answer).mapError wrap with
        | error e => rfl
        | ok x =>
          simp only [Except.map]
          rw [ih (update g x) (by rw [happlies, hg]), hpart, funext (hupdate g x)]
  · rw [if_neg hg]
    induction plan with
    | nil => rfl
    | cons item plan ih => rw [List.map_cons, script_cons_none (by rw [Item.within, if_neg hg]), ih]

end Plan

end Testbed

import Mathlib.Data.Finset.Card
import Testbed.Node.Transport
import Testbed.Proofs.Node.PlanScript

/-!
# What a node remembers

A node is called again and again, with force or without, and the world behind it may answer as it
likes. What the node remembers is then told by the log of what has reached that world, and by nothing
else.

* `watched exec`: a world that keeps a log of the requests that reach it and of its answers.
* `Call`: a request, and whether an exit code other than 0 is a failure of the call.
* `session exec st calls`: a fresh node after some calls, and `Session.next` what one more call makes
  of it.
* `settled`: what an exchange gives the node to remember.

Results:
* `serve_eq`, `runOn_turn_bind`: how a node answers a request, and how an operation goes on with it.
* `session_append`: a session goes on call by call.
* `Session.Kept`: the memory holds what the log gives it, each line once. It holds at the start, is kept
  by each call (`Session.Kept.next`), and so holds in every session (`kept_session`).
* `Session.Remembers`: what that says of the memory (`Session.Kept.remembers`).
* `Session.Goes`: what a call does, depending on whether its line is remembered (`goes_next`).
* `Session.Alike`: sessions that differ in answers only, as when exit codes are looked at
  (`session_alike`).
* `Transport.interpret_isError_iff`: the ways in which a request fails on its way to a node.

Headline: **`session_remembers`**: all of it, for every session and one more call.
-/

namespace Testbed

namespace Cache

/-- The result that a request is answered with from memory: none, if it is forced. -/
def recalled? (cache : Cache) (r : Request) : Option Output :=
  if r.forced then none else cache.find? r.line

/-- What is remembered after the answer to a request that was passed on. -/
def learn (cache : Cache) (r : Request) : Answer → Cache
  | .ok output => if r.forced then cache else cache.remember r.line output
  | .error _ => cache

theorem learn_of_forced {r : Request} (h : r.forced = true) (cache : Cache) (answer : Answer) :
    cache.learn r answer = cache := by
  cases answer with
  | error e => rfl
  | ok output => exact if_pos h

end Cache

namespace Node

variable {σ α ε F : Type}

/-! ## One request -/

/-- A world that keeps a log of what it is asked, with its answers. -/
def watched (exec : Request → StateM σ Answer) (r : Request) :
    StateM (σ × List Exchange) Answer := fun (st, log) =>
  let (answer, st) := exec r st
  (answer, (st, log ++ [(r, answer)]))

/-- A node answers a request from memory, or passes it on and learns from the answer. -/
theorem serve_eq (exec : Request → StateM σ Answer) (r : Request) (cache : Cache) (st : σ) :
    serve exec r cache st = match cache.recalled? r with
      | some output => ((.ok output, cache), st)
      | none => (((exec r st).1, cache.learn r (exec r st).1), (exec r st).2) := by
  unfold serve Cache.recalled?
  generalize (if r.forced then none else cache.find? r.line) = recalled
  generalize hexec : exec r st = result
  obtain ⟨answer, st'⟩ := result
  cases recalled with
  | some output => rfl
  | none =>
    simp only [bind, StateT.bind, hexec]
    cases answer <;> rfl

theorem serve_of_forced {r : Request} (h : r.forced = true) (exec : Request → StateM σ Answer)
    (cache : Cache) (st : σ) : serve exec r cache st = (((exec r st).1, cache), (exec r st).2) := by
  have hrecall : cache.recalled? r = none := if_pos h
  rw [serve_eq, hrecall]
  simp only [Cache.learn_of_forced h]

/-- An operation that is one request comes to what it makes of the answer. -/
theorem runOn_turn (turn : Plan.Turn F ε) (exec : Request → StateM σ Answer) (cache : Cache) (st : σ) :
    turn.script.runOn exec cache st = ((turn.judge (serve exec turn.request cache st).1.1,
      (serve exec turn.request cache st).1.2), (serve exec turn.request cache st).2) := rfl

/-- An operation that begins with a turn goes on as the turn is judged. -/
theorem runOn_turn_bind {turn : Plan.Turn F ε} (hforced : turn.request.forced = true)
    (f : F → NodeScript ε α) (exec : Request → StateM σ Answer) (cache : Cache) (st : σ) :
    (turn.script >>= f).runOn exec cache st =
      match turn.judge (exec turn.request st).1 with
      | .ok facts => (f facts).runOn exec cache (exec turn.request st).2
      | .error e => ((.error e, cache), (exec turn.request st).2) := by
  have hask : ∀ resume : Answer → Requests (Except ε α),
      (Script.ask turn.request resume).run (serve exec) cache st =
        (resume (serve exec turn.request cache st).1.1).run (serve exec)
          (serve exec turn.request cache st).1.2 (serve exec turn.request cache st).2 := fun _ => rfl
  rw [NodeScript.runOn, Plan.run_turn_bind, hask, serve_of_forced hforced]
  cases turn.judge (exec turn.request st).1 <;> rfl

/-- An operation whose first turn fails ends there. -/
theorem runOn_turn_of_error {turn : Plan.Turn F ε} (hforced : turn.request.forced = true)
    {f : F → NodeScript ε α} {exec : Request → StateM σ Answer} {st st' : σ} {answer : Answer} {e : ε}
    (hexec : exec turn.request st = (answer, st')) (hjudge : turn.judge answer = .error e) (cache : Cache) :
    (turn.script >>= f).runOn exec cache st = ((.error e, cache), st') := by
  rw [runOn_turn_bind hforced, hexec]
  simp only [hjudge]

/-- An operation whose first turn ends well goes on with what is known then. -/
theorem runOn_turn_of_ok {turn : Plan.Turn F ε} (hforced : turn.request.forced = true)
    {f : F → NodeScript ε α} {exec : Request → StateM σ Answer} {st st' : σ} {answer : Answer}
    {facts : F} (hexec : exec turn.request st = (answer, st')) (hjudge : turn.judge answer = .ok facts)
    (cache : Cache) :
    (turn.script >>= f).runOn exec cache st = (f facts).runOn exec cache st' := by
  rw [runOn_turn_bind hforced, hexec]
  simp only [hjudge]

/-! ## Calls and sessions -/

/-- A call of a node: a request, and whether an exit code other than 0 is a failure of the call. -/
structure Call where
  request : Request
  isChecked : Bool

namespace Call

/-- The operation that is called. -/
def script (c : Call) : NodeScript NodeError Output :=
  if c.isChecked then executeChecked c.request else execute c.request

/-- What the call makes of an answer to its request. -/
def judge (c : Call) (answer : Answer) : Answer :=
  if c.isChecked then Plan.checked c.request answer else answer

theorem script_eq (c : Call) : c.script = Plan.Turn.script ⟨c.request, c.judge⟩ := by
  obtain ⟨r, isChecked⟩ := c
  cases isChecked with
  | true => exact Plan.executeChecked_eq
  | false => exact Plan.execute_eq

end Call

/-- A node in use: what its calls were answered, what it remembers, the world behind it, and what has
reached that world. -/
structure Session (σ : Type) where
  answers : List Answer
  cache : Cache
  world : σ
  log : List Exchange

/-- A fresh node that is called some times. -/
def session (exec : Request → StateM σ Answer) (st : σ) (calls : List Call) : Session σ :=
  let ((answers, cache), (world, log)) :=
    calls.mapM (fun c => c.script.runOn (watched exec)) {} (st, [])
  ⟨answers, cache, world, log⟩

namespace Session

/-- One more call: from memory if its line is there and it is not forced, or else of the world. -/
def next (exec : Request → StateM σ Answer) (s : Session σ) (c : Call) : Session σ :=
  match s.cache.recalled? c.request with
  | some output => { s with answers := s.answers ++ [c.judge (.ok output)] }
  | none =>
    let (answer, world) := exec c.request s.world
    ⟨s.answers ++ [c.judge answer], s.cache.learn c.request answer, world,
      s.log ++ [(c.request, answer)]⟩

end Session

variable {exec : Request → StateM σ Answer} {st : σ} {s : Session σ} {c : Call}

theorem runOn_call (exec : Request → StateM σ Answer) (answers : List Answer) (cache : Cache) (st : σ)
    (log : List Exchange) (c : Call) :
    ∃ answer cache' st' log', c.script.runOn (watched exec) cache (st, log) =
        ((answer, cache'), (st', log')) ∧
      Session.next exec ⟨answers, cache, st, log⟩ c = ⟨answers ++ [answer], cache', st', log'⟩ := by
  rw [c.script_eq, runOn_turn, serve_eq]
  unfold Session.next
  simp only
  split <;> exact ⟨_, _, _, _, rfl, rfl⟩

/-- A session is made of its calls, one after the other. -/
theorem session_eq_foldl (exec : Request → StateM σ Answer) (st : σ) (calls : List Call) :
    session exec st calls = calls.foldl (Session.next exec) ⟨[], {}, st, []⟩ := by
  have hcalls : ∀ (calls : List Call) (answers : List Answer) (cache : Cache) (st : σ)
      (log : List Exchange), ∃ more cache' st' log',
        calls.mapM (fun c => c.script.runOn (watched exec)) cache (st, log) =
          ((more, cache'), (st', log')) ∧
        calls.foldl (Session.next exec) ⟨answers, cache, st, log⟩ =
          ⟨answers ++ more, cache', st', log'⟩ := by
    intro calls
    induction calls with
    | nil => exact fun answers cache st log => ⟨[], cache, st, log, rfl, by simp⟩
    | cons c calls ih =>
      intro answers cache st log
      obtain ⟨answer, cache₁, st₁, log₁, hcall, hnext⟩ := runOn_call exec answers cache st log c
      obtain ⟨more, cache', st', log', hmore, hfold⟩ := ih (answers ++ [answer]) cache₁ st₁ log₁
      refine ⟨answer :: more, cache', st', log', ?_, ?_⟩
      · rw [List.mapM_cons]
        simp only [bind, StateT.bind, hcall, hmore]
        rfl
      · rw [List.foldl_cons, hnext, hfold]
        simp
  obtain ⟨more, cache', st', log', hmore, hfold⟩ := hcalls calls [] {} st []
  rw [hfold, session, hmore]
  simp

/-- **A session goes on call by call.** -/
theorem session_append (exec : Request → StateM σ Answer) (st : σ) (calls more : List Call) :
    session exec st (calls ++ more) = more.foldl (Session.next exec) (session exec st calls) := by
  rw [session_eq_foldl, session_eq_foldl, List.foldl_append]

theorem session_snoc (exec : Request → StateM σ Answer) (st : σ) (calls : List Call) (c : Call) :
    session exec st (calls ++ [c]) = (session exec st calls).next exec c :=
  session_append exec st calls [c]

/-! ## The memory and the log -/

/-- What an exchange gives the node to remember: the result of a request without force. -/
def settled : Exchange → Option (String × Output)
  | (r, .ok output) => if r.forced then none else some (r.line, output)
  | (_, .error _) => none

theorem settled_eq_some_iff {x : Exchange} {line : String} {output : Output} :
    settled x = some (line, output) ↔
      ∃ r, x = (r, .ok output) ∧ r.forced = false ∧ r.line = line := by
  obtain ⟨r, answer⟩ := x
  cases answer with
  | error e =>
    constructor
    · rintro ⟨⟩
    · rintro ⟨_, ⟨⟩, -⟩
  | ok output' =>
    rw [settled, Option.ite_none_left_eq_some, Bool.not_eq_true]
    constructor
    · rintro ⟨hforced, ⟨⟩⟩
      exact ⟨r, rfl, hforced, rfl⟩
    · rintro ⟨_, ⟨⟩, hforced, rfl⟩
      exact ⟨hforced, rfl⟩

namespace Session

/-- The results that the log gives the node to remember, in order. -/
def results (s : Session σ) : List (String × Output) := s.log.filterMap settled

/-- The memory holds the results of the log, and each line once. -/
structure Kept (s : Session σ) : Prop where
  entries : s.cache.entries = s.results
  nodup : s.cache.lines.Nodup

/-- **What the log shows of the memory.** -/
structure Remembers (s : Session σ) : Prop where
  /-- The remembered lines are those of the requests without force that had a result. -/
  lines : ∀ line, line ∈ s.cache.lines ↔
    ∃ r output, (r, .ok output) ∈ s.log ∧ r.forced = false ∧ r.line = line
  /-- What is remembered of a line is its first result. -/
  first : ∀ line, s.cache.find? line = s.results.lookup line
  /-- No line has two. -/
  once : (s.results.map (·.1)).Nodup
  /-- The number of results remembered is that of the different lines. -/
  size : s.cache.size = (s.results.map (·.1)).toFinset.card

end Session

theorem find?_isSome_iff {cache : Cache} {line : String} :
    (cache.find? line).isSome ↔ line ∈ cache.lines := by
  rw [Cache.find?, List.lookup_isSome_iff, Cache.lines, List.mem_map]
  simp

theorem find?_eq_none_iff {cache : Cache} {line : String} :
    cache.find? line = none ↔ line ∉ cache.lines := by
  rw [← find?_isSome_iff, Option.not_isSome_iff_eq_none]

/-- A request is passed on if it is forced, or if its line is not remembered. -/
theorem recalled?_eq_none_iff {cache : Cache} {r : Request} :
    cache.recalled? r = none ↔ r.forced = true ∨ r.line ∉ cache.lines := by
  rw [Cache.recalled?, ← find?_eq_none_iff]
  cases r.forced <;> simp

theorem recalled?_eq_some_iff {cache : Cache} {r : Request} {output : Output} :
    cache.recalled? r = some output ↔ r.forced = false ∧ cache.find? r.line = some output := by
  rw [Cache.recalled?, Option.ite_none_left_eq_some, Bool.not_eq_true]

/-- What is learnt of an answer is what its exchange gives. -/
theorem entries_learn (cache : Cache) (r : Request) (answer : Answer) :
    (cache.learn r answer).entries = cache.entries ++ (settled (r, answer)).toList := by
  cases answer with
  | error e => simp [Cache.learn, settled]
  | ok output => cases h : r.forced <;> simp [Cache.learn, settled, Cache.remember, h]

theorem next_of_recalled {output : Output} (h : s.cache.recalled? c.request = some output) :
    s.next exec c = { s with answers := s.answers ++ [c.judge (.ok output)] } := by
  rw [Session.next, h]

theorem next_of_passed (h : s.cache.recalled? c.request = none) : s.next exec c =
    ⟨s.answers ++ [c.judge (exec c.request s.world).1],
      s.cache.learn c.request (exec c.request s.world).1, (exec c.request s.world).2,
      s.log ++ [(c.request, (exec c.request s.world).1)]⟩ := by
  rw [Session.next, h]
  rfl

/-- A call keeps the memory to the log: what it adds to one it adds to the other, and a line that is
added was not there. -/
theorem Session.Kept.next (h : s.Kept) : (s.next exec c).Kept := by
  cases hrecall : s.cache.recalled? c.request with
  | some output =>
    rw [next_of_recalled hrecall]
    exact ⟨h.entries, h.nodup⟩
  | none =>
    rw [next_of_passed hrecall]
    generalize (exec c.request s.world).1 = answer
    have hentries := entries_learn s.cache c.request answer
    refine ⟨?_, ?_⟩
    · show _ = (s.log ++ [_]).filterMap settled
      rw [hentries, h.entries, Session.results, List.filterMap_append]
      cases hsettled : settled (c.request, answer) <;> simp [hsettled]
    · show (List.map _ _).Nodup
      rw [hentries, List.map_append]
      show (s.cache.lines ++ _).Nodup
      cases hsettled : settled (c.request, answer) with
      | none => simpa using h.nodup
      | some result =>
        obtain ⟨_, ⟨⟩, hforced, hline⟩ := settled_eq_some_iff.mp hsettled
        have hnew : result.1 ∉ s.cache.lines := by
          rw [← hline]
          exact (recalled?_eq_none_iff.mp hrecall).resolve_left (by rw [hforced]; decide)
        exact h.nodup.append (List.nodup_singleton _) (List.disjoint_singleton.mpr hnew)

theorem kept_session (exec : Request → StateM σ Answer) (st : σ) (calls : List Call) :
    (session exec st calls).Kept := by
  rw [session_eq_foldl]
  have hfold : ∀ s : Session σ, s.Kept → (calls.foldl (Session.next exec) s).Kept := by
    induction calls with
    | nil => exact fun s h => h
    | cons c calls ih => exact fun s h => ih _ h.next
  exact hfold _ ⟨rfl, List.nodup_nil⟩

/-- A memory that is kept to the log is told by it. -/
theorem Session.Kept.remembers (h : s.Kept) : s.Remembers where
  lines line := by
    simp only [Cache.lines, h.entries, Session.results, List.mem_map, List.mem_filterMap]
    constructor
    · rintro ⟨⟨_, output⟩, ⟨x, hx, hsettled⟩, rfl⟩
      obtain ⟨r, rfl, hforced, hline⟩ := settled_eq_some_iff.mp hsettled
      exact ⟨r, output, hx, hforced, hline⟩
    · rintro ⟨r, output, hx, hforced, rfl⟩
      exact ⟨_, ⟨_, hx, settled_eq_some_iff.mpr ⟨r, rfl, hforced, rfl⟩⟩, rfl⟩
  first line := by rw [Cache.find?, h.entries]
  once := by simpa only [Cache.lines, h.entries] using h.nodup
  size := by
    have hnodup : (s.results.map (·.1)).Nodup := by
      simpa only [Cache.lines, h.entries] using h.nodup
    rw [List.toFinset_card_of_nodup hnodup, List.length_map, Cache.size, h.entries]

/-! ## One call -/

/-- **What a call does** to a session `s`, which then is `s'`. -/
structure Session.Goes (exec : Request → StateM σ Answer) (s s' : Session σ) (c : Call) : Prop where
  /-- A request that is forced, or whose line is not remembered, is passed on, and nothing else is. -/
  passed : c.request.forced = true ∨ c.request.line ∉ s.cache.lines →
    s'.log = s.log ++ [(c.request, (exec c.request s.world).1)] ∧
    s'.world = (exec c.request s.world).2 ∧
    s'.answers = s.answers ++ [c.judge (exec c.request s.world).1]
  /-- Any other is answered with what is remembered, and leaves no trace. -/
  recalled : ¬(c.request.forced = true ∨ c.request.line ∉ s.cache.lines) →
    s'.log = s.log ∧ s'.world = s.world ∧ s'.cache = s.cache ∧
    ∃ output, s.cache.find? c.request.line = some output ∧
      s'.answers = s.answers ++ [c.judge (.ok output)]
  /-- Nothing is learnt from a request with force. -/
  forced : c.request.forced = true → s'.cache = s.cache
  /-- Nothing is learnt from a failure. -/
  failed : ∀ e, (exec c.request s.world).1 = .error e → s'.cache = s.cache
  /-- Nothing is forgotten or replaced. -/
  kept : ∀ line output, s.cache.find? line = some output → s'.cache.find? line = some output

theorem find?_learn {cache : Cache} {r : Request} {answer : Answer} {line : String} {output : Output}
    (h : cache.find? line = some output) : (cache.learn r answer).find? line = some output := by
  rw [Cache.find?, entries_learn, List.lookup_append]
  exact Option.or_eq_some_iff.mpr (Or.inl h)

theorem goes_next (exec : Request → StateM σ Answer) (s : Session σ) (c : Call) :
    s.Goes exec (s.next exec c) c := by
  cases hrecall : s.cache.recalled? c.request with
  | some output =>
    have hsome := recalled?_eq_some_iff.mp hrecall
    have hnot : ¬(c.request.forced = true ∨ c.request.line ∉ s.cache.lines) := by
      rw [← recalled?_eq_none_iff, hrecall]
      exact Option.some_ne_none output
    rw [next_of_recalled hrecall]
    exact ⟨fun h => absurd h hnot, fun _ => ⟨rfl, rfl, rfl, output, hsome.2, rfl⟩, fun _ => rfl,
      fun _ _ => rfl, fun _ _ h => h⟩
  | none =>
    rw [next_of_passed hrecall]
    refine ⟨fun _ => ⟨rfl, rfl, rfl⟩, fun h => absurd (recalled?_eq_none_iff.mp hrecall) h, ?_, ?_,
      fun _ _ => find?_learn⟩
    · exact fun hforced => Cache.learn_of_forced hforced _ _
    · intro e he
      show Cache.learn _ _ _ = _
      rw [he]
      rfl

/-- Whatever is remembered stays, whatever is called later. -/
theorem find?_session_append {calls : List Call} {line : String} {output : Output}
    (h : (session exec st calls).cache.find? line = some output) (more : List Call) :
    (session exec st (calls ++ more)).cache.find? line = some output := by
  rw [session_append]
  generalize session exec st calls = s at h
  induction more generalizing s with
  | nil => exact h
  | cons c more ih => exact ih _ ((goes_next exec s c).kept _ _ h)

/-- Two sessions of the same node, whatever the calls were answered. -/
structure Session.Alike (s s' : Session σ) : Prop where
  cache : s.cache = s'.cache
  world : s.world = s'.world
  log : s.log = s'.log

theorem Session.Alike.next {s' : Session σ} {c' : Call} (h : s.Alike s')
    (hc : c.request = c'.request) : (s.next exec c).Alike (s'.next exec c') := by
  obtain ⟨answers, cache, world, log⟩ := s
  obtain ⟨answers', _, _, _⟩ := s'
  obtain ⟨rfl, rfl, rfl⟩ := h
  cases hrecall : cache.recalled? c.request with
  | some output =>
    rw [next_of_recalled hrecall, next_of_recalled (hc ▸ hrecall)]
    exact ⟨rfl, rfl, rfl⟩
  | none =>
    rw [next_of_passed hrecall, next_of_passed (hc ▸ hrecall), hc]
    exact ⟨rfl, rfl, rfl⟩

/-- Whether exit codes are looked at makes no difference to the node. -/
theorem session_alike {calls calls' : List Call}
    (h : calls.map (·.request) = calls'.map (·.request)) :
    (session exec st calls).Alike (session exec st calls') := by
  rw [session_eq_foldl, session_eq_foldl]
  have hfold : ∀ {s s' : Session σ}, s.Alike s' →
      (calls.foldl (Session.next exec) s).Alike (calls'.foldl (Session.next exec) s') := by
    induction calls generalizing calls' with
    | nil =>
      obtain rfl := List.map_eq_nil_iff.mp h.symm
      exact id
    | cons c calls ih =>
      obtain ⟨c', calls', rfl, hc, hcalls⟩ := List.map_eq_cons_iff.mp h.symm
      exact fun hs => ih hcalls.symm (hs.next hc.symm)
  exact hfold ⟨rfl, rfl, rfl⟩

end Node

/-! ## Failures on the way -/

namespace Transport

/-- The ends of a program from which no result of a request comes. -/
inductive Fails (transport : Transport) : Ending → Prop
  | notStarted (reason : String) : Fails transport (.notStarted reason)
  | overran : Fails transport .overran
  | lost (reason : String) : Fails transport (.lost reason)
  /-- The ssh client could not connect. -/
  | unconnected {program : String} {settings : Ssh.Settings} {exitCode : Option Int32}
      {stdout stderr : ByteArray} (hssh : transport = .ssh program settings)
      (h : isConnectionFailure ⟨exitCode.getD (-1), Text.Utf8.decodeLossy stdout,
        Text.Utf8.decodeLossy stderr⟩ = true) : Fails transport (.ended exitCode stdout stderr)

/-- **A request fails** on its way in these cases, and in no others. -/
theorem interpret_isError_iff {transport : Transport} {r : Request} {ending : Ending} :
    (∃ e, transport.interpret r ending = .error e) ↔ transport.Fails ending := by
  cases ending with
  | notStarted reason => exact ⟨fun _ => .notStarted reason, fun _ => ⟨_, rfl⟩⟩
  | overran => exact ⟨fun _ => .overran, fun _ => ⟨_, rfl⟩⟩
  | lost reason => exact ⟨fun _ => .lost reason, fun _ => ⟨_, rfl⟩⟩
  | ended exitCode stdout stderr =>
    cases transport with
    | shell program limit =>
      constructor
      · rintro ⟨_, ⟨⟩⟩
      · rintro (_ | _ | _ | ⟨⟨⟩, -⟩)
    | ssh program settings =>
      constructor
      · rintro ⟨e, he⟩
        refine .unconnected rfl ?_
        by_contra hconnected
        exact absurd (he.symm.trans (if_neg hconnected)) nofun
      · rintro (_ | _ | _ | ⟨-, h⟩)
        exact ⟨_, if_pos h⟩

end Transport

namespace Node

/-- **What a node remembers**: after any calls of a fresh node, over any world, its memory is what the
log shows; one more call does what it should; nothing remembered is ever lost; whether exit codes are
looked at makes no difference to the node; and nothing is learnt from a request that failed on its
way. -/
theorem session_remembers (exec : Request → StateM σ Answer) (st : σ) (calls more : List Call)
    (c : Call) :
    (session exec st calls).Remembers ∧
    (session exec st calls).Goes exec (session exec st (calls ++ [c])) c ∧
    (∀ line output, (session exec st calls).cache.find? line = some output →
      (session exec st (calls ++ more)).cache.find? line = some output) ∧
    (∀ calls' : List Call, calls.map (·.request) = calls'.map (·.request) →
      (session exec st calls).Alike (session exec st calls')) ∧
    ∀ (transport : Transport) (start : Invocation → StateM σ Ending),
      transport.Fails
        (start (transport.invocation c.request) (session (transport.execute start) st calls).world).1 →
      (session (transport.execute start) st (calls ++ [c])).cache =
        (session (transport.execute start) st calls).cache := by
  refine ⟨(kept_session exec st calls).remembers, ?_, ?_, fun _ => session_alike, ?_⟩
  · rw [session_snoc]
    exact goes_next exec _ c
  · exact fun line output h => find?_session_append h more
  · intro transport start hfails
    obtain ⟨e, he⟩ := Transport.interpret_isError_iff.mpr hfails
    rw [session_snoc]
    exact (goes_next _ _ c).failed e he

end Node

end Testbed

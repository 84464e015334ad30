import Testbed.Proofs.Node.Memory

/-!
# Two ways to a node

A request reaches a node through a shell on this machine or through the ssh client. The programs are
started with different arguments, and what comes of a request is the same, unless the ssh client says
that it could not connect.

* `Complaint`, `Unconnected`: a line, and an output, by which an ssh client says so.
* `Plain`: the answer that the end of a program gives by itself.
* `Same`: answers that differ in the name of a program that cannot be started, and in nothing else.
* `Common`: what the two ways make of one request and one end of the program.
* `started`: a world in which the line and the limit decide how a program ends.
* `Abreast`: nodes that are reached in the two ways and that nothing has set apart.

Results:
* `isConnectionFailure_iff`: the test for such an output against what it is meant to find.
* `toUTF8_decodeLossy`: well-formed bytes are decoded as they are.
* `common_ways`: all that two ways have in common.
* `Abreast.next`, `abreast_session`: nodes stay in step, call by call, as long as there is a connection.
* `not_unconnected_of_find?`: a node behind an ssh client remembers no such output.

Headline: **`ways_agree`**: all of it, for valid settings and any programs.
-/

namespace Testbed

namespace Text

/-- Well-formed bytes are decoded as they are. -/
theorem toUTF8_decodeLossy {bytes : ByteArray} (h : bytes.IsValidUTF8) :
    (Utf8.decodeLossy bytes).toUTF8 = bytes := by
  have hread : String.fromUTF8? bytes = some (String.fromUTF8 bytes h) := dif_pos h
  rw [Utf8.decodeLossy, hread]
  rfl

end Text

namespace Transport

open Text (lines trim)
open Text.Utf8 (decodeLossy)

/-- A shell whose commands have the same default limit as those of an ssh client with some settings. -/
def shellBeside (program : String) (settings : Ssh.Settings) : Transport :=
  .shell program (settings.defaultTimeoutSecs * 1000)

/-- A line by which an ssh client says that it could not connect. -/
def Complaint (line : List Char) : Prop :=
  "ssh:".toList <+: trim line ∨ "Host key verification failed".toList <+: trim line ∨
    "Permission denied (".toList <:+: trim line

/-- **An output of an ssh client that could not connect.** -/
structure Unconnected (output : Output) : Prop where
  exitCode : output.exitCode = 255
  complaint : ∃ line ∈ lines output.stderr.toList, Complaint line

/-- **The answer that the end of a program gives** by itself. -/
inductive Plain (i : Invocation) (line : String) : Ending → Answer → Prop
  | notStarted (reason : String) :
      Plain i line (.notStarted reason) (.error (.spawnFailed i.program reason))
  | overran : Plain i line .overran (.error (.timedOut line i.limitMs))
  | lost (reason : String) : Plain i line (.lost reason) (.error (.io reason))
  | exited (code : Int32) (stdout stderr : ByteArray) :
      Plain i line (.ended (some code) stdout stderr)
        (.ok ⟨code, decodeLossy stdout, decodeLossy stderr⟩)
  | killed (stdout stderr : ByteArray) :
      Plain i line (.ended none stdout stderr) (.ok ⟨-1, decodeLossy stdout, decodeLossy stderr⟩)

/-- Answers that differ in the name of a program that cannot be started, and in nothing else. -/
inductive Same (program program' : String) : Answer → Answer → Prop
  | same (answer : Answer) : Same program program' answer answer
  | notStarted (reason : String) :
      Same program program' (.error (.spawnFailed program reason)) (.error (.spawnFailed program' reason))

/-- **What two ways make of a request** whose program ends in the same way: a shell, and an ssh client
with some settings. -/
structure Common (here there : Transport) (settings : Ssh.Settings) (r : Request) (ending : Ending) :
    Prop where
  /-- The line is the last argument. -/
  line : (here.invocation r).arguments.getLast? = some r.line ∧
    (there.invocation r).arguments.getLast? = some r.line
  /-- The limit is that of the request, or else the default. -/
  limit : (here.invocation r).limitMs = r.timeoutMs.getD (settings.defaultTimeoutSecs * 1000) ∧
    (there.invocation r).limitMs = r.timeoutMs.getD (settings.defaultTimeoutSecs * 1000)
  /-- The shell adds nothing to the end of the program. -/
  plain : Plain (here.invocation r) r.line ending (here.interpret r ending)
  /-- Nor does the ssh client, where it could connect. -/
  connected : (∀ output, here.interpret r ending = .ok output → ¬Unconnected output) →
    Plain (there.invocation r) r.line ending (there.interpret r ending)
  /-- Where it could not, it makes a failure of what is a result for the shell. -/
  unconnected : ∀ output, here.interpret r ending = .ok output → Unconnected output →
    there.interpret r ending =
      .error (.commandFailed ("ssh " ++ settings.destination) 255 (Text.trimmed output.stderr))

/-! ## One request -/

variable {i : Invocation} {line sh client : String} {ending : Ending} {answer answer' : Answer}
  {output : Output} {settings : Ssh.Settings} {r : Request}

theorem reportsNoConnection_iff {line : List Char} :
    reportsNoConnection line = true ↔ Complaint line := by
  unfold reportsNoConnection Complaint
  rw [Bool.or_eq_true, Bool.or_eq_true, List.isPrefixOf_iff_prefix, List.isPrefixOf_iff_prefix,
    Text.occursIn_iff, or_assoc, or_comm (a := _ <:+: _)]

theorem isConnectionFailure_iff : isConnectionFailure output = true ↔ Unconnected output := by
  unfold isConnectionFailure
  rw [Bool.and_eq_true, beq_iff_eq, List.any_eq_true]
  simp only [reportsNoConnection_iff]
  exact ⟨fun h => ⟨h.1, h.2⟩, fun h => ⟨h.exitCode, h.complaint⟩⟩

theorem plain_collect (i : Invocation) (line : String) (ending : Ending) :
    Plain i line ending (collect i line ending) := by
  cases ending with
  | notStarted reason => exact .notStarted reason
  | overran => exact .overran
  | lost reason => exact .lost reason
  | ended exitCode stdout stderr =>
    cases exitCode with
    | none => exact .killed stdout stderr
    | some code => exact .exited code stdout stderr

/-- The end of a program leaves no choice. -/
theorem Plain.eq_collect (h : Plain i line ending answer) : answer = collect i line ending := by
  cases h <;> rfl

theorem interpret_shell (program : String) (settings : Ssh.Settings) (r : Request) (ending : Ending) :
    (shellBeside program settings).interpret r ending =
      collect ((shellBeside program settings).invocation r) r.line ending := by
  unfold interpret
  cases collect ((shellBeside program settings).invocation r) r.line ending <;> rfl

/-- An ssh client makes a failure of a result that is unconnected, and of nothing else. -/
theorem interpret_ssh (program : String) (settings : Ssh.Settings) (r : Request) (ending : Ending) :
    (ssh program settings).interpret r ending =
      (collect ((ssh program settings).invocation r) r.line ending).bind fun output =>
        if isConnectionFailure output then
          .error (.commandFailed ("ssh " ++ settings.destination) output.exitCode
            (Text.trimmed output.stderr))
        else .ok output := rfl

/-- Programs that end in the same way give the same answer, within the same limit. -/
theorem same_collect (i i' : Invocation) (hlimit : i.limitMs = i'.limitMs) (line : String)
    (ending : Ending) : Same i.program i'.program (collect i line ending) (collect i' line ending) := by
  cases ending with
  | notStarted reason => exact .notStarted reason
  | overran =>
    rw [collect, collect, hlimit]
    exact .same _
  | lost reason => exact .same _
  | ended exitCode stdout stderr => exact .same _

/-- A result is the same whatever program was started. -/
theorem Same.eq_ok (h : Same sh client answer answer') : answer = .ok output ↔ answer' = .ok output := by
  cases h with
  | same => exact Iff.rfl
  | notStarted reason => exact ⟨nofun, nofun⟩

theorem common_ways (sh client : String) (settings : Ssh.Settings) (r : Request) (ending : Ending) :
    Common (shellBeside sh settings) (.ssh client settings) settings r
      ending := by
  have hplain := plain_collect ((Transport.ssh client settings).invocation r) r.line ending
  have hsame := same_collect ((shellBeside sh settings).invocation r)
    ((Transport.ssh client settings).invocation r) rfl r.line ending
  refine ⟨⟨rfl, ?_⟩, ⟨rfl, rfl⟩, ?_, fun hconnected => ?_, fun output houtput hunconnected => ?_⟩
  · show (Ssh.Settings.arguments settings r.line).getLast? = _
    rw [Ssh.Settings.arguments, List.getLast?_append_of_ne_nil _ (List.cons_ne_nil _ _)]
    rfl
  · rw [interpret_shell]
    exact plain_collect _ _ _
  · rw [interpret_shell] at hconnected
    rw [interpret_ssh]
    generalize collect ((Transport.ssh client settings).invocation r) r.line ending = answer at hplain hsame ⊢
    cases answer with
    | error e => exact hplain
    | ok output =>
      have hok := hconnected output (hsame.eq_ok.mpr rfl)
      rw [← isConnectionFailure_iff] at hok
      show Plain _ _ _ (if isConnectionFailure output then _ else _)
      rw [if_neg hok]
      exact hplain
  · rw [interpret_shell] at houtput
    rw [interpret_ssh, hsame.eq_ok.mp houtput]
    show (if isConnectionFailure output then _ else _) = _
    rw [if_pos (isConnectionFailure_iff.mpr hunconnected), hunconnected.exitCode]

/-- With a connection, the two ways give the same answer. -/
theorem same_interpret (sh client : String) (settings : Ssh.Settings) (r : Request) (ending : Ending)
    (hconnected : ∀ output, (shellBeside sh settings).interpret r ending =
      .ok output → ¬Unconnected output) :
    Same sh client ((shellBeside sh settings).interpret r ending)
      ((Transport.ssh client settings).interpret r ending) := by
  have hcommon := common_ways sh client settings r ending
  rw [(hcommon.connected hconnected).eq_collect, hcommon.plain.eq_collect]
  exact same_collect ((shellBeside sh settings).invocation r)
    ((Transport.ssh client settings).invocation r) rfl _ _

/-- An ssh client gives no result that is unconnected. -/
theorem not_unconnected_of_interpret {program : String}
    (h : (Transport.ssh program settings).interpret r ending = .ok output) : ¬Unconnected output := by
  rw [interpret_ssh] at h
  cases hcollect : collect ((Transport.ssh program settings).invocation r) r.line ending with
  | error e =>
    rw [hcollect] at h
    cases h
  | ok output' =>
    rw [hcollect] at h
    replace h : (if isConnectionFailure output' then _ else _) = _ := h
    split at h
    · cases h
    · rename_i hconnected
      cases h
      exact fun hunconnected => hconnected (isConnectionFailure_iff.mpr hunconnected)

/-! ## Many requests -/

variable {σ : Type}

/-- A world in which the last argument of a program and its limit decide how it ends, and not the
program. -/
def started (outcome : String → Nat → StateM σ Ending) (i : Invocation) : StateM σ Ending :=
  outcome (i.arguments.getLast?.getD "") i.limitMs

end Transport

namespace Node

open Transport (Same Unconnected shellBeside started)

variable {σ : Type} {outcome : String → Nat → StateM σ Ending} {exec : Request → StateM σ Answer}
  {s s' : Session σ} {st : σ} {c : Call} {calls : List Call} {settings : Ssh.Settings}
  {sh client : String} {answer answer' : Answer}

/-- **Nodes that nothing has set apart**: they have given the same answers, remember the same, and have
the same world behind them. -/
structure Abreast (sh client : String) (s s' : Session σ) : Prop where
  answers : List.Forall₂ (Same sh client) s.answers s'.answers
  cache : s.cache = s'.cache
  world : s.world = s'.world
  log : List.Forall₂ (fun x y => x.1 = y.1 ∧ Same sh client x.2 y.2) s.log s'.log

/-- What a call makes of the same answer is the same. -/
theorem same_judge (h : Same sh client answer answer') (c : Call) :
    Same sh client (c.judge answer) (c.judge answer') := by
  obtain ⟨r, isChecked⟩ := c
  cases h with
  | same => exact .same _
  | notStarted reason => cases isChecked <;> exact .notStarted reason

/-- What is learnt of the same answer is the same. -/
theorem learn_eq_of_same (h : Same sh client answer answer') (cache : Cache) (r : Request) :
    cache.learn r answer = cache.learn r answer' := by
  cases h <;> rfl

/-- Both ways put the same to the world, and make what they make of the same end of the program. -/
theorem execute_started (sh client : String) (settings : Ssh.Settings)
    (outcome : String → Nat → StateM σ Ending) (r : Request) (st : σ) : ∃ ending st',
    (shellBeside sh settings).execute (started outcome) r st =
      ((shellBeside sh settings).interpret r ending, st') ∧
    (Transport.ssh client settings).execute (started outcome) r st =
      ((Transport.ssh client settings).interpret r ending, st') := by
  have hcommon := Transport.common_ways sh client settings r .overran
  have hline := hcommon.line.1.trans hcommon.line.2.symm
  have hlimit := hcommon.limit.1.trans hcommon.limit.2.symm
  have hstarted : started outcome ((Transport.ssh client settings).invocation r) st =
      started outcome ((shellBeside sh settings).invocation r) st := by
    rw [started, started, hline, hlimit]
  refine ⟨_, _, rfl, ?_⟩
  rw [Transport.execute]
  show (Transport.interpret _ r (started outcome _ st).1, (started outcome _ st).2) = _
  rw [hstarted]
  rfl

/-- With a connection, a call leaves nodes in step. -/
theorem Abreast.next (h : Abreast sh client s s')
    (hconnected : s.cache.recalled? c.request = none → ∀ output,
      ((shellBeside sh settings).execute (started outcome) c.request s.world).1 = .ok output →
        ¬Unconnected output) :
    Abreast sh client (s.next ((shellBeside sh settings).execute (started outcome)) c)
      (s'.next ((Transport.ssh client settings).execute (started outcome)) c) := by
  obtain ⟨answers, cache, world, log⟩ := s
  obtain ⟨answers', _, _, log'⟩ := s'
  obtain ⟨hanswers, rfl, rfl, hlog⟩ := h
  cases hrecall : cache.recalled? c.request with
  | some output =>
    rw [next_of_recalled hrecall, next_of_recalled hrecall]
    exact ⟨List.rel_append hanswers (.cons (.same _) .nil), rfl, rfl, hlog⟩
  | none =>
    obtain ⟨ending, st', hhere, hthere⟩ := execute_started sh client settings outcome c.request world
    have hsame := Transport.same_interpret sh client settings c.request ending fun output houtput =>
      hconnected hrecall output ((congrArg Prod.fst hhere).trans houtput)
    rw [next_of_passed hrecall, next_of_passed hrecall, hhere, hthere]
    exact ⟨List.rel_append hanswers (.cons (same_judge hsame c) .nil), learn_eq_of_same hsame _ _, rfl,
      List.rel_append hlog (.cons ⟨rfl, hsame⟩ .nil)⟩

/-- A call takes nothing away from the log. -/
theorem log_sublist_next (exec : Request → StateM σ Answer) (s : Session σ) (c : Call) :
    s.log.Sublist (s.next exec c).log := by
  cases hrecall : s.cache.recalled? c.request with
  | some output =>
    rw [next_of_recalled hrecall]
  | none =>
    rw [next_of_passed hrecall]
    exact List.sublist_append_left _ _

/-- As long as there is a connection, nodes stay in step. -/
theorem abreast_session
    (hconnected : ∀ x ∈ (session ((shellBeside sh settings).execute (started outcome)) st calls).log,
      ∀ output, x.2 = .ok output → ¬Unconnected output) :
    Abreast sh client (session ((shellBeside sh settings).execute (started outcome)) st calls)
      (session ((Transport.ssh client settings).execute (started outcome)) st calls) := by
  induction calls using List.reverseRecOn with
  | nil => exact ⟨.nil, rfl, rfl, .nil⟩
  | append_singleton calls c ih =>
    rw [session_snoc] at hconnected ⊢
    rw [session_snoc]
    generalize session ((shellBeside sh settings).execute (started outcome)) st calls = s at *
    refine (ih fun x hx => hconnected x ((log_sublist_next _ s c).subset hx)).next fun hrecall output h => ?_
    refine hconnected (c.request, _) ?_ output h
    rw [next_of_passed hrecall]
    exact List.mem_append_right _ List.mem_cons_self

/-- The log holds answers of the world. -/
theorem exists_exec_of_mem_log : ∀ x ∈ (session exec st calls).log, ∃ st', (exec x.1 st').1 = x.2 := by
  induction calls using List.reverseRecOn with
  | nil => exact fun x hx => absurd hx List.not_mem_nil
  | append_singleton calls c ih =>
    rw [session_snoc]
    generalize session exec st calls = s at ih
    cases hrecall : s.cache.recalled? c.request with
    | some output =>
      rw [next_of_recalled hrecall]
      exact ih
    | none =>
      rw [next_of_passed hrecall]
      intro x hx
      rcases List.mem_append.mp hx with hx | hx
      · exact ih x hx
      · obtain rfl := List.mem_singleton.mp hx
        exact ⟨s.world, rfl⟩

/-- What is remembered is a result of the world. -/
theorem exists_exec_of_find? {line : String} {output : Output}
    (h : (session exec st calls).cache.find? line = some output) :
    ∃ r st', (exec r st').1 = .ok output := by
  rw [(kept_session exec st calls).remembers.first] at h
  obtain ⟨before, behind, hresults, -⟩ := List.lookup_eq_some_iff.mp h
  have hmem : (line, output) ∈ (session exec st calls).results := by
    rw [hresults]
    exact List.mem_append_right _ List.mem_cons_self
  obtain ⟨x, hx, hsettled⟩ := List.mem_filterMap.mp hmem
  obtain ⟨r, rfl, -, -⟩ := settled_eq_some_iff.mp hsettled
  obtain ⟨st', hexec⟩ := exists_exec_of_mem_log _ hx
  exact ⟨r, st', hexec⟩

/-- A node behind an ssh client remembers no result of a client that could not connect. -/
theorem not_unconnected_of_find? {start : Invocation → StateM σ Ending} {line : String} {output : Output}
    (h : (session ((Transport.ssh client settings).execute start) st calls).cache.find? line =
      some output) : ¬Unconnected output := by
  obtain ⟨r, st', hexec⟩ := exists_exec_of_find? h
  exact Transport.not_unconnected_of_interpret hexec

/-- **Two ways to a node give the same answers.** An ssh client with valid settings and a shell with the
same default limit are given the same line within the same limit, and make the same of the end of the
program, whatever the programs are called, and whatever is written; except for an output by which the
ssh client says that it could not connect, of which only the client makes a failure. So a node behind
it never remembers one, and nodes that are reached in the two ways stay in step until there is one. -/
theorem ways_agree {settings : Ssh.Settings} (hvalid : settings.fault? = none) (sh client : String) :
    ∃ there, (Transport.ssh? settings).map (·.withProgram client) = .ok there ∧
    (∀ r ending, (shellBeside sh settings).Common there settings r ending) ∧
    (∀ bytes : ByteArray, bytes.IsValidUTF8 → (Text.Utf8.decodeLossy bytes).toUTF8 = bytes) ∧
    (∀ {σ : Type} (start : Invocation → StateM σ Ending) (st : σ) (calls : List Call) line output,
      (session (there.execute start) st calls).cache.find? line = some output → ¬Unconnected output) ∧
    ∀ {σ : Type} (outcome : String → Nat → StateM σ Ending) (st : σ) (calls : List Call),
      (∀ x ∈ (session ((shellBeside sh settings).execute (started outcome)) st calls).log,
        ∀ output, x.2 = .ok output → ¬Unconnected output) →
      Abreast sh client (session ((shellBeside sh settings).execute (started outcome)) st calls)
        (session (there.execute (started outcome)) st calls) := by
  have hways : (Transport.ssh? settings).map (·.withProgram client) = .ok (.ssh client settings) := by
    rw [Transport.ssh?, hvalid]
    rfl
  exact ⟨_, hways, Transport.common_ways sh client settings, fun _ => Text.toUTF8_decodeLossy,
    fun start st calls line output => not_unconnected_of_find?, fun outcome st calls => abreast_session⟩

/-- What an ssh client says to a node that does not know its key. -/
def denied : Output := ⟨255, "", "root@localhost: Permission denied (publickey).\n"⟩

/-- A world in which every program says so. -/
def denying (_ : String) (_ : Nat) : StateM Unit Ending :=
  pure (.ended (some 255) "".toUTF8 denied.stderr.toUTF8)

/-- A node behind a shell remembers it, and one behind the ssh client does not. -/
theorem apart_when_denied : ({} : Ssh.Settings).fault? = none ∧ Unconnected denied ∧
    (session ((shellBeside "sh" {}).execute (started denying)) ()
      [⟨{ command := "true" }, false⟩]).cache.find? "true" = some denied ∧
    (session ((Transport.ssh "ssh" {}).execute (started denying)) ()
      [⟨{ command := "true" }, false⟩]).cache.find? "true" ≠ some denied := by
  have hvalid : ({} : Ssh.Settings).fault? = none := by decide +kernel
  have hdenied : Unconnected denied := Transport.isConnectionFailure_iff.mp (by decide +kernel)
  obtain ⟨there, hthere, -, -, hcache, -⟩ := ways_agree hvalid "sh" "ssh"
  have hways : (Transport.ssh? {}).map (·.withProgram "ssh") = .ok (.ssh "ssh" {}) := by decide +kernel
  obtain rfl := Except.ok.inj (hthere.symm.trans hways)
  exact ⟨hvalid, hdenied, by decide +kernel, fun h => hcache _ _ _ _ _ h hdenied⟩

end Node

end Testbed

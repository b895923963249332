import IngressProxy.Proofs.Proxy.Answers
import IngressProxy.Proofs.Proxy.Running

namespace IngressProxy

namespace RunningServer

/-- Whether a table is what a run has left active: the empty one as long as no update has stored one,
and else that of the payload that was stored last. -/
def IsLatest (config : Server.Config) (acts : List Event) (table : RoutingTable) : Prop :=
  (table = {} ∧ ∀ m i p, ¬ Stores config acts m i p) ∨
    ∃ m i p, Stores config acts m i p ∧ table = RoutingTable.ofPayload p ∧
      ∀ m' i' p', Stores config acts m' i' p' → m' ≤ m

/-- What the updates of a run have to do with its acts: each was begun with its payload, their tables
are built of these, and the active table is the one that was stored last. The server is ready
only if an update has stored one. -/
structure Faithful (config : Server.Config) (acts : List Event) (s : RunningServer) : Prop where
  begun : ∀ (i : Nat) task, s.tasks.updates[i]? = some task →
    ∃ n, BeginsAt acts n .update i (.update task.payload)
  builds : s.tasks.BuildsTables
  stored : ∀ (i : Nat) task, s.tasks.updates[i]? = some task → task.stage.isStored →
    ∃ m, Stores config acts m i task.payload
  latest : IsLatest config acts s.tasks.server.table
  ready : s.tasks.server.ready = true → ∃ m i p, Stores config acts m i p

section

variable {config : Server.Config} {acts : List Event} {s s' : RunningServer} {e : Event}

theorem table_of_transition (hs : s.tasks.BuildsTables) (h : Transition s e s') :
    s'.tasks.server.table =
      ((s.stored? e).map fun u => RoutingTable.ofPayload u.2).getD s.tasks.server.table := by
  cases h with
  | task e tasks htasks => exact ServerTasks.table_of_transition hs htasks
  | life e lifecycle => rfl

theorem isLatest_concat (hs : (start config).run? acts = some s)
    (hlatest : IsLatest config acts s.tasks.server.table) {table : RoutingTable}
    (htable : table =
      ((s.stored? e).map fun u => RoutingTable.ofPayload u.2).getD s.tasks.server.table) :
    IsLatest config (acts ++ [e]) table := by
  cases hstored : s.stored? e with
  | none =>
    have hsame : table = s.tasks.server.table := by simpa [hstored] using htable
    have hiff (m i : Nat) (p : Payload) :
        Stores config (acts ++ [e]) m i p ↔ Stores config acts m i p := by
      simp [stores_concat_iff hs, hstored]
    simpa only [IsLatest, hsame, hiff] using hlatest
  | some u =>
    refine .inr ⟨acts.length, u.1, u.2, (stores_concat_iff hs).mpr (.inr ⟨rfl, hstored⟩), ?_, ?_⟩
    · simpa [hstored] using htable
    · intro m' i' p' h'
      obtain h' | ⟨rfl, -⟩ := (stores_concat_iff hs).mp h'
      · exact Nat.le_of_lt h'.lt_length
      · exact Nat.le_refl _

theorem faithful_concat (hs : (start config).run? acts = some s) (hfaithful : Faithful config acts s)
    (h : Transition s e s') : Faithful config (acts ++ [e]) s' where
  latest := isLatest_concat hs hfaithful.latest (table_of_transition hfaithful.builds h)
  builds := by
    cases h with
    | task e tasks htasks => exact ServerTasks.buildsTables_of_transition hfaithful.builds htasks
    | life e lifecycle => exact hfaithful.builds
  begun i task' htask' := by
    cases h with
    | life e lifecycle =>
      obtain ⟨n, hn⟩ := hfaithful.begun i task' htask'
      exact ⟨n, hn.append _⟩
    | task e tasks htasks =>
      obtain ⟨rfl, rfl, -⟩ | ⟨task, htask, hpayload, -⟩ :=
        ServerTasks.update_of_transition htasks htask'
      · exact ⟨acts.length, .last hs rfl⟩
      · obtain ⟨n, hn⟩ := hfaithful.begun i task htask
        exact ⟨n, hpayload ▸ hn.append _⟩
  stored i task' htask' hstage := by
    cases h with
    | life e lifecycle =>
      obtain ⟨m, hm⟩ := hfaithful.stored i task' htask' hstage
      exact ⟨m, hm.concat hs _⟩
    | task e tasks htasks =>
      obtain ⟨-, -, hstarted⟩ | ⟨task, htask, hpayload, -, hstored⟩ :=
        ServerTasks.update_of_transition htasks htask'
      · simp [hstarted, UpdateStage.isStored] at hstage
      · obtain hbefore | hnow := hstored hstage
        · obtain ⟨m, hm⟩ := hfaithful.stored i task htask hbefore
          exact ⟨m, hpayload ▸ hm.concat hs _⟩
        · exact ⟨acts.length, (stores_concat_iff hs).mpr (.inr ⟨rfl, hnow⟩)⟩
  ready hready := by
    have hmore : (∃ m i p, Stores config acts m i p) →
        ∃ m i p, Stores config (acts ++ [e]) m i p :=
      fun ⟨m, i, p, hm⟩ => ⟨m, i, p, hm.concat hs e⟩
    cases h with
    | life e lifecycle => exact hmore (hfaithful.ready hready)
    | task e tasks htasks =>
      obtain hready | ⟨i, task, htask, hstage⟩ := ServerTasks.ready_of_transition htasks hready
      · exact hmore (hfaithful.ready hready)
      · obtain ⟨m, hm⟩ := hfaithful.stored i task htask hstage
        exact hmore ⟨m, i, task.payload, hm⟩

theorem faithful_of_run? (h : (start config).run? acts = some s) : Faithful config acts s := by
  refine foldlM_induction h (motive := Faithful config) ?_ fun _ _ _ _ hv hfaithful hstep =>
    faithful_concat hv hfaithful (transition_of_step? hstep)
  exact {
    begun := nofun
    builds := nofun
    stored := nofun
    latest := .inl ⟨rfl, fun m i p hm => absurd hm.lt_length (Nat.not_lt_zero m)⟩
    ready := nofun }

/-- What the tasks of a run hold: there is one for each act that begins one, it looked at the active
table once, with that act, and has answered whatever it was asked from what it found there. -/
structure Holds (config : Server.Config) (acts : List Event) (s : RunningServer) : Prop where
  count : ∀ kind, s.tasks.count kind = acts.countP (Event.begins kind)
  requests : ∀ (i : Nat) task, s.tasks.requests[i]? = some task →
    BeginsWith config acts .request i (.request task.request task.client) task.table ∧
      ∀ a, task.answer = some a → ∃ reply, task.EndsAs reply a.1 a.2 ∧
        a = Handler.handle task.table (fun _ _ => reply) task.request task.client
  handshakes : ∀ (i : Nat) task, s.tasks.handshakes[i]? = some task →
    BeginsWith config acts .handshake i (.handshake task.hello) task.table ∧
      ∀ a, task.answer = some a → ∀ c, a = some c ↔
        ∃ name, task.hello.serverName = some name ∧ task.table.certificate name = .ok c
  readers : ∀ (i : Nat) task, s.tasks.readers[i]? = some task →
    BeginsWith config acts .reader i .read task.table ∧
      ∀ l ∈ task.lookups, l.IsFoundIn task.table

theorem Holds.request_concat (h : Holds config acts s) (hs : (start config).run? acts = some s)
    (hstep : Transition s e s') {i : Nat} {task' : RequestTask}
    (htask' : s'.tasks.requests[i]? = some task') :
    BeginsWith config (acts ++ [e]) .request i (.request task'.request task'.client) task'.table ∧
      ∀ a, task'.answer = some a → ∃ reply, task'.EndsAs reply a.1 a.2 ∧
        a = Handler.handle task'.table (fun _ _ => reply) task'.request task'.client := by
  cases hstep with
  | life e =>
    obtain ⟨hbegins, hanswer⟩ := h.requests i task' htask'
    exact ⟨hbegins.concat hs _, hanswer⟩
  | task e tasks htasks =>
    obtain hold | ⟨rfl, rfl, htable, hopen⟩ | ⟨task, reply, hold, -, rfl⟩ :=
      ServerTasks.request_of_transition htasks htask'
    · obtain ⟨hbegins, hanswer⟩ := h.requests i task' hold
      exact ⟨hbegins.concat hs _, hanswer⟩
    · exact ⟨htable ▸ BeginsWith.last hs rfl rfl, fun a ha => by simp [hopen] at ha⟩
    · refine ⟨(h.requests i task hold).1.concat hs _, fun a ha => ⟨reply, ?_⟩⟩
      obtain rfl : ServerTasks.answer task reply = a := Option.some.inj ha
      exact ⟨RequestTask.endsAs_answer _ reply, ServerTasks.answer_eq_handle task reply⟩

theorem Holds.handshake_concat (h : Holds config acts s) (hs : (start config).run? acts = some s)
    (hstep : Transition s e s') {i : Nat} {task' : HandshakeTask}
    (htask' : s'.tasks.handshakes[i]? = some task') :
    BeginsWith config (acts ++ [e]) .handshake i (.handshake task'.hello) task'.table ∧
      ∀ a, task'.answer = some a → ∀ c, a = some c ↔
        ∃ name, task'.hello.serverName = some name ∧ task'.table.certificate name = .ok c := by
  cases hstep with
  | life e =>
    obtain ⟨hbegins, hanswer⟩ := h.handshakes i task' htask'
    exact ⟨hbegins.concat hs _, hanswer⟩
  | task e tasks htasks =>
    obtain hold | ⟨rfl, rfl, htable, hopen⟩ | ⟨task, hold, -, rfl⟩ :=
      ServerTasks.handshake_of_transition htasks htask'
    · obtain ⟨hbegins, hanswer⟩ := h.handshakes i task' hold
      exact ⟨hbegins.concat hs _, hanswer⟩
    · exact ⟨htable ▸ BeginsWith.last hs rfl rfl, fun a ha => by simp [hopen] at ha⟩
    · refine ⟨(h.handshakes i task hold).1.concat hs _, fun a ha c => ?_⟩
      obtain rfl : Handshake.certificate? task.table task.hello = a := Option.some.inj ha
      exact Handshake.certificate?_eq_some_iff

theorem Holds.reader_concat (h : Holds config acts s) (hs : (start config).run? acts = some s)
    (hstep : Transition s e s') {i : Nat} {task' : ReaderTask}
    (htask' : s'.tasks.readers[i]? = some task') :
    BeginsWith config (acts ++ [e]) .reader i .read task'.table ∧
      ∀ l ∈ task'.lookups, l.IsFoundIn task'.table := by
  cases hstep with
  | life e =>
    obtain ⟨hbegins, hfound⟩ := h.readers i task' htask'
    exact ⟨hbegins.concat hs _, hfound⟩
  | task e tasks htasks =>
    obtain hold | ⟨rfl, rfl, rfl⟩ | ⟨task, l, hold, hasks, rfl⟩ :=
      ServerTasks.reader_of_transition htasks htask'
    · obtain ⟨hbegins, hfound⟩ := h.readers i task' hold
      exact ⟨hbegins.concat hs _, hfound⟩
    · exact ⟨BeginsWith.last hs rfl rfl, nofun⟩
    · obtain ⟨hbegins, hfound⟩ := h.readers i task hold
      refine ⟨hbegins.concat hs _, fun l' hl' => ?_⟩
      obtain hearlier | hlast := List.mem_append.mp hl'
      · exact hfound l' hearlier
      · obtain rfl := List.mem_singleton.mp hlast
        exact hasks.isFoundIn

theorem holds_of_run? (h : (start config).run? acts = some s) : Holds config acts s := by
  refine foldlM_induction h (motive := Holds config) ?_ fun acts v e v' hv hholds hstep => ?_
  · refine ⟨fun kind => by cases kind <;> rfl, ?_, ?_, ?_⟩ <;> simp [start]
  · have hrun : (start config).run? (acts ++ [e]) = some v' := by
      rw [run?, foldlM_concat, hv]
      exact hstep
    have hstep := transition_of_step? hstep
    exact {
      count := count_of_run? hrun
      requests := fun _ _ => hholds.request_concat hv hstep
      handshakes := fun _ _ => hholds.handshake_concat hv hstep
      readers := fun _ _ => hholds.reader_concat hv hstep }

/-- Whether the gate is open exactly if the server is ready, and only an open gate was passed. -/
structure Guarded (s : RunningServer) : Prop where
  gate : s.lifecycle.gate.isSet = s.tasks.server.ready
  passed : s.lifecycle.HasPassed → s.lifecycle.gate.isSet = true

theorem guarded_of_transition (hs : s.Guarded) (h : Transition s e s') : s'.Guarded := by
  cases h with
  | life e lifecycle hother hlife =>
    refine ⟨?_, Lifecycle.isSet_of_hasPassed hs.passed hlife⟩
    rw [Lifecycle.isSet_of_transition hlife, hs.gate]
    simp [hother]
  | task e tasks htasks =>
    have hkeeps := (ServerTasks.keeps_of_transition htasks).ready
    cases hready : tasks.server.ready with
    | true => exact ⟨by simp [hready, Gate.isSet_step], fun _ => by simp [Gate.isSet_step]⟩
    | false =>
      -- The server was not ready before either.
      have hbefore : s.tasks.server.ready = false := by
        rw [← Bool.not_eq_true]
        exact fun htrue => by simp [hkeeps htrue] at hready
      refine ⟨?_, ?_⟩
      · simp [hready, hs.gate, hbefore]
      · simpa using hs.passed

theorem guarded_of_run? (h : (start config).run? acts = some s) : s.Guarded := by
  refine foldlM_invariant h (p := Guarded) ⟨rfl, ?_⟩ fun _ _ _ _ hguarded hstep =>
    guarded_of_transition hguarded (transition_of_step? hstep)
  rintro (hadmitted | ⟨kind, hkind⟩)
  · cases hadmitted
  · cases kind <;> exact absurd rfl hkind

/-- The gate of a server that is ready is open, and opening it again changes nothing. -/
theorem Guarded.runPossible_update (hs : s.Guarded) (hready : s.tasks.server.ready = true) :
    s.lifecycle.runPossible [.update] = s.lifecycle := by
  have hgate : s.lifecycle.gate.step .set = s.lifecycle.gate := by
    simp [Gate.step, hs.gate, hready]
  simp [Lifecycle.runPossible, Lifecycle.step?, hgate]

/-- What tasks do if no others act in between: an update replaces the table and opens the gate, and
requests, handshakes and readers are answered from the active table. -/
structure ActsAtOnce (s : RunningServer) : Prop where
  update : ∀ p, ∃ s', s.run? (.task (.update p) ::
      List.replicate 4 (.task (.advanceUpdate s.tasks.updates.length))) = some s' ∧
    s'.tasks.server = s.tasks.server.update p ∧ s'.lifecycle = s.lifecycle.runPossible [.update]
  request : ∀ r client reply, ∃ s', s.run? [.task (.request r client),
      .task (.conclude s.tasks.requests.length reply)] = some s' ∧
    s'.tasks.server = (s.tasks.server.handle (fun _ _ => reply) r client).1 ∧
    ∃ task, s'.tasks.requests = s.tasks.requests ++ [task] ∧ task.answer =
      some (Handler.handle s.tasks.server.table (fun _ _ => reply) r client)
  handshake : ∀ hello, ∃ s', s.run? [.task (.handshake hello),
      .task (.present s.tasks.handshakes.length)] = some s' ∧ s'.tasks.server = s.tasks.server ∧
    ∃ task, s'.tasks.handshakes = s.tasks.handshakes ++ [task] ∧
      task.answer = some (Handshake.certificate? s.tasks.server.table hello)
  reader : ∀ host path name, ∃ s', s.run? [.task .read,
      .task (.findBackend s.tasks.readers.length host path),
      .task (.findCertificate s.tasks.readers.length name)] = some s' ∧
    s'.tasks.server = s.tasks.server ∧
    s'.tasks.readers = s.tasks.readers ++ [{
      table := s.tasks.server.table
      lookups := [.backend host path (s.tasks.server.table.backend host path),
        .certificate name (s.tasks.server.table.certificate name)] }]

theorem Guarded.actsAtOnce (hs : s.Guarded) : s.ActsAtOnce where
  update p := by
    cases hready : s.tasks.server.ready with
    | true =>
      simp [run?, step?, ServerTasks.step?, ServerTasks.advance, List.replicate, Server.update,
        Server.install, Server.countUpdate, Server.setReady, hready, hs.runPossible_update hready]
    | false =>
      simp [run?, step?, ServerTasks.step?, ServerTasks.advance, List.replicate, Server.update,
        Server.install, Server.countUpdate, Server.setReady, hready]
  request r client reply := by
    simp [run?, step?, ServerTasks.step?, ServerTasks.answer_eq_handle, Server.handle]
  handshake hello := by
    simp [run?, step?, ServerTasks.step?]
  reader host path name := by
    simp [run?, step?, ServerTasks.step?, ServerTasks.look?]

theorem keeps_of_run? (h : s.run? acts = some s') : s.tasks.Keeps s'.tasks := by
  refine foldlM_invariant h (p := fun v => s.tasks.Keeps v.tasks) (ServerTasks.Keeps.refl _)
    fun v e v' _ hkeeps hstep => hkeeps.trans ?_
  cases transition_of_step? hstep with
  | task e tasks htasks => exact ServerTasks.keeps_of_transition htasks
  | life e lifecycle => exact ServerTasks.Keeps.refl _

/-- Whether a server was seen to be ready: its gate is open, or it has got past it. -/
def IsOpen (s : RunningServer) : Prop :=
  s.tasks.server.ready = true ∨ s.lifecycle.gate.isSet = true ∨ s.lifecycle.HasPassed

theorem Guarded.ready_of_isOpen (h : s.Guarded) (hopen : s.IsOpen) :
    s.tasks.server.ready = true := by
  obtain hready | hset | hpassed := hopen
  · exact hready
  · rw [← h.gate, hset]
  · rw [← h.gate, h.passed hpassed]

/-- A store makes the table that is active from then on one that was stored there or later. -/
theorem IsLatest.of_stores {table : RoutingTable} (h : IsLatest config acts table) {m i : Nat}
    {p : Payload} (hm : Stores config acts m i p) :
    ∃ m' i' p', m ≤ m' ∧ Stores config acts m' i' p' ∧ table = RoutingTable.ofPayload p' := by
  obtain ⟨-, hnone⟩ | ⟨m', i', p', hm', htable, hlast⟩ := h
  · exact absurd hm (hnone m i p)
  · exact ⟨m', i', p', hlast m i p hm, hm', htable⟩

/-- What is stored is of the payload with which the update was begun before. -/
theorem begun_of_stores {m i : Nat} {p : Payload} (h : Stores config acts m i p) :
    ∃ n, n < m ∧ BeginsAt acts n .update i (.update p) := by
  obtain ⟨e, s, ⟨-, hs⟩, hstored⟩ := h
  cases e with
  | life e => cases hstored
  | task e =>
    obtain ⟨-, table, htask⟩ := ServerTasks.eq_of_stored? hstored
    obtain ⟨n, hn⟩ := (faithful_of_run? hs).begun i _ htask
    refine ⟨n, Nat.lt_of_lt_of_le hn.lt_length (List.length_take_le m acts), ?_⟩
    rw [← List.take_append_drop m acts]
    exact hn.append _

/-- Whatever the run: what is stored is the table of the payload with which the update was begun,
and whoever looks at the active table finds the empty one of the beginning if nothing is stored yet,
and else what was stored last. Requests, handshakes and readers each looked once, and answer from
what they found; what nothing interrupts is done as if at once. From an act on that finds the server
ready it stays so, with its tasks keeping what they hold, and whoever looks finds what an update has
stored; and from an act on that finds an update returned, whoever looks finds what that update has
stored, or what was stored later. -/
theorem publication (h : (start config).run? acts = some s) :
    (∀ m i p, Stores config acts m i p → ∃ n, n < m ∧ BeginsAt acts n .update i (.update p)) ∧
    (∀ n e table, Loads config acts n e table → IsLatest config (acts.take n) table) ∧
    Holds config acts s ∧ s.ActsAtOnce ∧
    ∀ k n v u, k ≤ n → stateAt? config acts k = some v → stateAt? config acts n = some u →
      v.tasks.Keeps u.tasks ∧
      (v.IsOpen → u.tasks.server.ready = true ∧ u.lifecycle.gate.isSet = true) ∧
      (v.IsOpen → ∀ e table, Loads config acts n e table →
        ∃ m i p, m < n ∧ Stores config acts m i p ∧ table = RoutingTable.ofPayload p) ∧
      ∀ i p, v.tasks.updates[i]? = some ⟨p, .returned⟩ → ∀ e table, Loads config acts n e table →
        ∃ m m' i' p', m < k ∧ Stores config acts m i p ∧ m ≤ m' ∧ m' < n ∧
          Stores config acts m' i' p' ∧ table = RoutingTable.ofPayload p' := by
  have hlatest : ∀ n e table, Loads config acts n e table →
      IsLatest config (acts.take n) table := by
    rintro n e table ⟨-, u, ⟨-, hu⟩, rfl⟩
    exact (faithful_of_run? hu).latest
  refine ⟨fun m i p => begun_of_stores, hlatest, holds_of_run? h, (guarded_of_run? h).actsAtOnce, ?_⟩
  intro k n v u hkn hv hu
  have hfaithful : Faithful config (acts.take k) v := faithful_of_run? hv
  obtain ⟨between, hbetween⟩ := exists_foldlM_of_take hkn hv hu
  have hkeeps := keeps_of_run? hbetween
  -- What is stored before act `k` is stored before act `n` too, so nothing older is found there.
  have hseen (m i : Nat) (p : Payload) (hm : Stores config (acts.take k) m i p)
      (e : ServerTasks.Event) (table : RoutingTable) (hload : Loads config acts n e table) :
      ∃ m' i' p', m ≤ m' ∧ m' < n ∧ Stores config acts m' i' p' ∧
        table = RoutingTable.ofPayload p' := by
    obtain ⟨hmk, hm⟩ := stores_take_iff.mp hm
    have hm' := stores_take_iff.mpr ⟨Nat.lt_of_lt_of_le hmk hkn, hm⟩
    obtain ⟨m', i', p', hle, hstores, htable⟩ := (hlatest n e table hload).of_stores hm'
    obtain ⟨hlt, hstores⟩ := stores_take_iff.mp hstores
    exact ⟨m', i', p', hle, hlt, hstores, htable⟩
  refine ⟨hkeeps, fun hopen => ?_, fun hopen e table hload => ?_, ?_⟩
  · have hready := hkeeps.ready ((guarded_of_run? hv).ready_of_isOpen hopen)
    exact ⟨hready, by rw [(guarded_of_run? hu).gate, hready]⟩
  · obtain ⟨m, i, p, hm⟩ := hfaithful.ready ((guarded_of_run? hv).ready_of_isOpen hopen)
    obtain ⟨m', i', p', -, hlt, hstores, htable⟩ := hseen m i p hm e table hload
    exact ⟨m', i', p', hlt, hstores, htable⟩
  · intro i p htask e table hload
    obtain ⟨m, hm⟩ := hfaithful.stored i _ htask rfl
    obtain ⟨m', i', p', hle, hlt, hstores, htable⟩ := hseen m i p hm e table hload
    obtain ⟨hmk, hm⟩ := stores_take_iff.mp hm
    exact ⟨m, m', i', p', hmk, hm, hle, hlt, hstores, htable⟩

end

def greenCertificate : Certificate := ⟨"tea", [], .pkcs8, [], .ed25519⟩

/-- A payload with a rule for every host, and a certificate for one. -/
def greenPayload : Payload where
  ingresses := [
    { ingress := { defaultBackend := some ⟨some ⟨"tea", some { number := some 80 }⟩⟩ } },
    { ingress := {
      metadata := { ns := some "shop" }
      rules := [{ host := some "tea.shop" }]
      tls := [⟨["tea.shop"], some "tea"⟩] } }]
  certificates := .ofList [(⟨"shop", "tea"⟩, greenCertificate)]

/-- A run in which the second of two updates stores its table first, while a reader looks before and
after, and the listeners are bound as soon as the first update has returned. A third update takes all
away again while a handshake is in progress. -/
def overlappingRun : List Event :=
  [.task (.update greenPayload), .task (.update {}), .life .poll, .task (.advanceUpdate 0),
    .task (.advanceUpdate 1), .task .read, .task (.advanceUpdate 1), .task (.advanceUpdate 0),
    .task (.advanceUpdate 0), .task (.advanceUpdate 0), .life .poll, .life (.bind .http true),
    .task .read, .task (.handshake { serverName := some "tea.shop" }), .task (.update {})] ++
  List.replicate 4 (.task (.advanceUpdate 2)) ++
  [.task (.present 0), .task (.findBackend 0 "tea.shop" "/"), .task (.advanceUpdate 1),
    .task (.advanceUpdate 1)]

theorem publication_overlappingRun :
    ∃ w first last, (start {}).run? overlappingRun = some w ∧
      w.tasks.readers.map ReaderTask.table = [first, last] ∧
      Loads {} overlappingRun 5 .read first ∧ first = {} ∧
      Loads {} overlappingRun 12 .read last ∧
      (∃ m m' i' p', Stores {} overlappingRun m 0 greenPayload ∧ m ≤ m' ∧ m' < 12 ∧
        Stores {} overlappingRun m' i' p' ∧ last = RoutingTable.ofPayload p') ∧
      w.tasks.server.table = {} ∧ ∃ task, w.tasks.handshakes[0]? = some task ∧
        task.answer = some (some greenCertificate) := by
  obtain ⟨w, hw, hreaders, hreplaced, ⟨task, htask, hhello, htable, hanswered⟩⟩ :
      ∃ w, (start {}).run? overlappingRun = some w ∧
        w.tasks.readers.map ReaderTask.table = [{}, RoutingTable.ofPayload greenPayload] ∧
        w.tasks.server.table = RoutingTable.ofPayload {} ∧
        ∃ task, w.tasks.handshakes[0]? = some task ∧ task.hello.serverName = some "tea.shop" ∧
          task.table = RoutingTable.ofPayload greenPayload ∧ task.answer.isSome = true :=
    ⟨_, rfl, rfl, rfl, _, rfl, rfl, rfl, rfl⟩
  have hfirst : Loads {} overlappingRun 5 .read {} := ⟨rfl, _, ⟨rfl, rfl⟩, rfl⟩
  have hlast : Loads {} overlappingRun 12 .read (RoutingTable.ofPayload greenPayload) :=
    ⟨rfl, _, ⟨rfl, rfl⟩, rfl⟩
  obtain ⟨v, hv, hupdate⟩ : ∃ v, stateAt? {} overlappingRun 12 = some v ∧
      v.tasks.updates[0]? = some ⟨greenPayload, .returned⟩ := ⟨_, rfl, rfl⟩
  obtain ⟨-, -, hholds, -, hlater⟩ := publication hw
  obtain ⟨m, m', i', p', -, hm, hle, hlt, hm', hp'⟩ :=
    (hlater 12 12 v v (Nat.le_refl _) hv hv).2.2.2 0 greenPayload hupdate .read _ hlast
  -- The handshake is answered from the table that it was given, which is no longer the active one.
  obtain ⟨a, ha⟩ := Option.isSome_iff_exists.mp hanswered
  have hcertificate : task.table.certificate "tea.shop" = .ok greenCertificate := by
    rw [htable]
    decide +kernel
  have hgreen : a = some greenCertificate :=
    ((hholds.handshakes 0 task htask).2 a ha greenCertificate).mpr ⟨_, hhello, hcertificate⟩
  exact ⟨w, _, _, hw, hreaders, hfirst, rfl, hlast, ⟨m, m', i', p', hm, hle, hlt, hm', hp'⟩,
    hreplaced, task, htask, by rw [ha, hgreen]⟩

end RunningServer

end IngressProxy

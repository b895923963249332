import IngressProxy.Proofs.Proxy.Endings
import IngressProxy.Proofs.Proxy.Publication

namespace IngressProxy

namespace Lifecycle

variable {s s' : Lifecycle} {e : Event}

structure AwaitsGate (s : Lifecycle) : Prop where
  waits : s.gate.waits = [.due] ∨ s.gate.waits = [.parked]
  unbound : ∀ kind, s.listener kind = .unbound
  running : s.result = none

/-- Whether a server returned because its wait was cancelled. -/
structure WasCancelled (s : Lifecycle) : Prop where
  admission : s.admission = some .cancelled
  unbound : ∀ kind, s.listener kind = .unbound
  returned : s.result = some (.ok ())

/-- Whether a server got past its gate. From then on it returns only when both listeners, each bound or
not to be bound, have ended. -/
structure WasAdmitted (s : Lifecycle) : Prop where
  admission : s.admission = some .opened
  ended : ∀ r, s.result = some r → ∀ kind, (s.listener kind).hasEnded = true

theorem AwaitsGate.admission (h : s.AwaitsGate) : s.admission = none := by
  obtain hwaits | hwaits := h.waits <;> simp [Lifecycle.admission, hwaits]

theorem unbound_of_drain (h : ∀ kind, s.listener kind = .unbound) (g : Gate)
    (f : AcceptLoop → AcceptLoop) (kind : ListenerKind) :
    ({ s with gate := g, http := s.http.modify f, https := s.https.modify f } : Lifecycle).listener
      kind = .unbound := by
  rw [listener_modify, h kind]
  rfl

/-- A server waits on until it is polled and finds the gate open or shutdown begun. -/
theorem AwaitsGate.of_transition (h : s.AwaitsGate) (hstep : Transition s e s')
    (hpoll : e = .poll → s.gate.isSet = false ∧ s.gate.draining = false) : s'.AwaitsGate := by
  have hkeeps {g : Gate} (hg : g.waits = s.gate.waits ∨ g.waits = s.gate.waits.map Gate.wake) :
      g.waits = [.due] ∨ g.waits = [.parked] := by
    obtain hg | hg := hg
    · exact hg ▸ h.waits
    · obtain hwaits | hwaits := h.waits <;> exact .inl (by rw [hg, hwaits]; rfl)
  cases hstep with
  | update => exact ⟨hkeeps (s.gate.waits_step (.inl rfl)), h.unbound, h.running⟩
  | drain =>
    exact ⟨hkeeps (s.gate.waits_step (.inr rfl)), unbound_of_drain h.unbound _ _, h.running⟩
  | poll hwaiting result hresult =>
    obtain ⟨hclosed, hnotDraining⟩ := hpoll rfl
    have hparked : (s.gate.step (.poll 0)).waits = [.parked] := by
      obtain hwaits | hwaits := h.waits <;>
        simp [Gate.step, Gate.poll, Gate.outcome, hwaits, hclosed, hnotDraining]
    refine ⟨.inr hparked, h.unbound, ?_⟩
    rw [hresult, if_neg (by simp [Lifecycle.admission, hparked])]
    exact h.running
  | bind kind free hadmitted => simp [h.admission] at hadmitted
  | accept kind act loop hbound => simp [h.unbound kind] at hbound
  | finish hrunning hhttp =>
    have hunbound : s.http = .unbound := h.unbound .http
    simp [hunbound, Listener.hasEnded] at hhttp

/-- A wait that is due stays so until it is polled. -/
theorem AwaitsGate.due_of_transition (h : s.AwaitsGate) (hdue : s.gate.waits = [.due])
    (hstep : Transition s e s') (hpoll : e ≠ .poll) : s'.gate.waits = [.due] := by
  have hkeeps {g : Gate} (hg : g.waits = s.gate.waits ∨ g.waits = s.gate.waits.map Gate.wake) :
      g.waits = [.due] := by
    obtain hg | hg := hg
    · rw [hg, hdue]
    · rw [hg, hdue]
      rfl
  cases hstep with
  | update => exact hkeeps (s.gate.waits_step (.inl rfl))
  | drain => exact hkeeps (s.gate.waits_step (.inr rfl))
  | poll => exact absurd rfl hpoll
  | bind kind free hadmitted => simp [h.admission] at hadmitted
  | accept kind act loop hbound => simp [h.unbound kind] at hbound
  | finish => exact hdue

/-- The signal to shut down wakes the wait. -/
theorem AwaitsGate.due_of_drain (h : s.AwaitsGate) (hrunning : s.gate.draining = false)
    (hstep : Transition s .drain s') : s'.gate.waits = [.due] := by
  cases hstep with
  | drain =>
    obtain hwaits | hwaits := h.waits <;> simp [Gate.step, hrunning, hwaits, Gate.wake]

/-- A poll while shutdown is under way ends the wait, in favour of an open gate. -/
theorem AwaitsGate.of_poll (h : s.AwaitsGate) (hdraining : s.gate.draining = true)
    (hstep : Transition s .poll s') :
    (s.gate.isSet = false → s'.WasCancelled) ∧ (s.gate.isSet = true → s'.WasAdmitted) := by
  cases hstep with
  | poll hwaiting result hresult =>
    constructor
    · intro hclosed
      have hcancelled : ({ s with gate := s.gate.step (.poll 0) } : Lifecycle).admission =
          some .cancelled := by
        obtain hwaits | hwaits := h.waits <;>
          simp [Lifecycle.admission, Gate.step, Gate.poll, Gate.outcome, hwaits, hclosed, hdraining]
      rw [if_pos hcancelled] at hresult
      exact ⟨hcancelled, h.unbound, hresult⟩
    · intro hopen
      have hopened : ({ s with gate := s.gate.step (.poll 0) } : Lifecycle).admission =
          some .opened := by
        obtain hwaits | hwaits := h.waits <;>
          simp [Lifecycle.admission, Gate.step, Gate.poll, Gate.outcome, hwaits, hopen]
      rw [if_neg (by simp [hopened]), h.running] at hresult
      exact ⟨hopened, fun r hr => by simp [hresult] at hr⟩

/-- Nothing more happens to a server whose wait was cancelled. -/
theorem WasCancelled.of_transition (h : s.WasCancelled) (hstep : Transition s e s') :
    s'.WasCancelled := by
  have hadmission := admission_of_transition hstep h.admission
  cases hstep with
  | update => exact ⟨hadmission, h.unbound, h.returned⟩
  | drain => exact ⟨hadmission, unbound_of_drain h.unbound _ _, h.returned⟩
  | poll hwaiting => simp [h.admission] at hwaiting
  | bind kind free hadmitted => simp [h.admission] at hadmitted
  | accept kind act loop hbound => simp [h.unbound kind] at hbound
  | finish hrunning => simp [h.returned] at hrunning

theorem WasAdmitted.of_transition (h : s.WasAdmitted) (hstep : Transition s e s') :
    s'.WasAdmitted := by
  refine ⟨admission_of_transition hstep h.admission, fun r hr kind => ?_⟩
  refine (listenerChange_of_transition hstep kind).hasEnded ?_
  cases hstep with
  | update | drain => exact h.ended r hr kind
  | poll hwaiting => simp [h.admission] at hwaiting
  | bind other => exact h.ended r (by cases other <;> exact hr) kind
  | accept other => exact h.ended r (by cases other <;> exact hr) kind
  | finish hrunning hhttp hhttps =>
    cases kind with
    | http => exact hhttp
    | https => exact hhttps

/-- Behind the gate both listeners can be bound. -/
theorem WasAdmitted.step?_bind (h : s.WasAdmitted) {kind : ListenerKind}
    (hunbound : s.listener kind = .unbound) (free : Bool) :
    ∃ next, s.step? (.bind kind free) = some next := by
  simp [step?, h.admission, hunbound]

end Lifecycle

namespace RunningServer

variable {config : Server.Config} {s s' v : RunningServer} {e : Event}
  {acts before between : List Event}

/-- The life of a server goes on by its own acts, and by the updates that open its gate. -/
theorem lifecycle_of_transition (h : Transition s e s') :
    s'.lifecycle = s.lifecycle ∨ ∃ act, Lifecycle.Transition s.lifecycle act s'.lifecycle ∧
      (e = .life act ∨ act = .update) := by
  cases h with
  | life act lifecycle hother hlife => exact .inr ⟨act, hlife, .inl rfl⟩
  | task act tasks htasks =>
    cases hready : tasks.server.ready with
    | true => exact .inr ⟨.update, by simpa [hready] using Lifecycle.Transition.update, .inr rfl⟩
    | false => exact .inl (by simp)

/-- What all acts of a run keep of the life of a server holds after it. -/
theorem lifecycle_invariant {p : Lifecycle → Prop} (h : s.run? acts = some s')
    (hstart : p s.lifecycle)
    (hstep : ∀ l act l', .life act ∈ acts ∨ act = .update → p l → Lifecycle.Transition l act l' →
      p l') : p s'.lifecycle := by
  refine foldlM_invariant h (p := fun v => p v.lifecycle) hstart fun v e v' he hv htransition => ?_
  obtain hsame | ⟨act, hlife, hact⟩ := lifecycle_of_transition (transition_of_step? htransition)
  · rwa [hsame]
  · refine hstep _ act _ ?_ hv hlife
    obtain rfl | hupdate := hact
    · exact .inl he
    · exact .inr hupdate

/-- As long as the gate is closed and shutdown has not begun, a server waits. -/
theorem awaitsGate_of_run? (h : (start config).run? acts = some s)
    (hclosed : s.lifecycle.gate.isSet = false) (hrunning : s.lifecycle.gate.draining = false) :
    s.lifecycle.AwaitsGate := by
  refine lifecycle_invariant (p := fun l =>
    l.gate.isSet = false → l.gate.draining = false → l.AwaitsGate) h ?_ ?_ hclosed hrunning
  · exact fun _ _ => ⟨.inl rfl, fun kind => by cases kind <;> rfl, rfl⟩
  · intro l act l' _ hl hstep hclosed hrunning
    rw [Lifecycle.isSet_of_transition hstep, Bool.or_eq_false_iff] at hclosed
    rw [Lifecycle.draining_of_transition hstep, Bool.or_eq_false_iff] at hrunning
    exact (hl hclosed.1 hrunning.1).of_transition hstep fun _ => ⟨hclosed.1, hrunning.1⟩

theorem isSet_eq_false_of_not_stores (h : (start config).run? acts = some s)
    (hempty : ∀ m i p, ¬ Stores config acts m i p) : s.lifecycle.gate.isSet = false := by
  rw [(guarded_of_run? h).gate, ← Bool.not_eq_true]
  intro hready
  obtain ⟨m, i, p, hm⟩ := (faithful_of_run? h).ready hready
  exact hempty m i p hm

/-- What the signal does to a server at its gate lasts until the wait is polled. -/
theorem due_of_drain (hs : s.lifecycle.AwaitsGate) (hrunning : s.lifecycle.gate.draining = false)
    (hv : s.run? (.life .drain :: between) = some v) (hpoll : .life .poll ∉ between) :
    v.lifecycle.AwaitsGate ∧ v.lifecycle.gate.waits = [.due] ∧ v.lifecycle.gate.draining = true := by
  obtain ⟨u, hdrain, hbetween⟩ := exists_of_foldlM_cons hv
  have hsignaled : u.lifecycle.AwaitsGate ∧ u.lifecycle.gate.waits = [.due] ∧
      u.lifecycle.gate.draining = true := by
    cases transition_of_step? hdrain with
    | life _ lifecycle hother hlife =>
      exact ⟨hs.of_transition hlife nofun, hs.due_of_drain hrunning hlife,
        by simp [Lifecycle.draining_of_transition hlife]⟩
  refine lifecycle_invariant (p := fun l => l.AwaitsGate ∧ l.gate.waits = [.due] ∧
    l.gate.draining = true) hbetween hsignaled ?_
  rintro l act l' hact ⟨hl, hdue, hdraining⟩ hstep
  have hother : act ≠ .poll := by
    rintro rfl
    obtain hmem | hupdate := hact
    · exact hpoll hmem
    · cases hupdate
  exact ⟨hl.of_transition hstep fun heq => absurd heq hother,
    hl.due_of_transition hdue hstep hother,
    by simp [Lifecycle.draining_of_transition hstep, hdraining]⟩

/-- If shutdown begins before an update has stored a table, the server is still at its gate and due to
be polled. If that poll comes before an update has opened the gate, the server returns in good order
with it and never tries to bind a listener. Otherwise it goes on to bind them, and returns only when
both have ended. -/
theorem early_shutdown (hs : (start config).run? before = some s)
    (hempty : ∀ m i p, ¬ Stores config before m i p)
    (hrunning : s.lifecycle.gate.draining = false)
    (hv : s.run? (.life .drain :: between) = some v) (hpoll : .life .poll ∉ between) :
    v.lifecycle.AwaitsGate ∧ v.lifecycle.gate.waits = [.due] ∧
    (∃ next, v.step? (.life .poll) = some next) ∧
    ∀ after w, v.run? (.life .poll :: after) = some w →
      (v.tasks.server.ready = false →
        w.lifecycle.result = some (.ok ()) ∧ ∀ kind, w.lifecycle.listener kind = .unbound) ∧
      (v.tasks.server.ready = true →
        (∀ kind, w.lifecycle.listener kind = .unbound → ∀ free,
          ∃ next, w.lifecycle.step? (.bind kind free) = some next) ∧
        ∀ r, w.lifecycle.result = some r →
          ∀ kind, (w.lifecycle.listener kind).hasEnded = true) := by
  have hclosed := isSet_eq_false_of_not_stores hs hempty
  have hatGate := awaitsGate_of_run? hs hclosed hrunning
  obtain ⟨hawaits, hwaits, hdraining⟩ := due_of_drain hatGate hrunning hv hpoll
  refine ⟨hawaits, hwaits, ?_, fun after w hw => ?_⟩
  · simp [step?, Lifecycle.step?, hawaits.admission]
  · obtain ⟨next, hnext, hafter⟩ := exists_of_foldlM_cons hw
    have hgate : v.lifecycle.gate.isSet = v.tasks.server.ready := by
      have hrun : (start config).run? (before ++ .life .drain :: between) = some v := by
        rw [run?, List.foldlM_append, ← run?, hs]
        exact hv
      exact (guarded_of_run? hrun).gate
    cases transition_of_step? hnext with
    | life _ lifecycle hother hlife =>
      obtain ⟨hcancelled, hadmitted⟩ := hawaits.of_poll hdraining hlife
      constructor
      · intro hnotReady
        have hcancelled : w.lifecycle.WasCancelled :=
          lifecycle_invariant hafter (hcancelled (hgate.trans hnotReady))
            fun _ _ _ _ hl hstep => hl.of_transition hstep
        exact ⟨hcancelled.returned, hcancelled.unbound⟩
      · intro hready
        have hadmitted : w.lifecycle.WasAdmitted :=
          lifecycle_invariant hafter (hadmitted (hgate.trans hready))
            fun _ _ _ _ hl hstep => hl.of_transition hstep
        exact ⟨fun kind hunbound free => hadmitted.step?_bind hunbound free, hadmitted.ended⟩

/-- A run in which the server has found its gate closed once. -/
def parkedRun : List Event := [.life .poll]

theorem not_stores_parkedRun (m i : Nat) (p : Payload) : ¬ Stores {} parkedRun m i p := by
  rintro ⟨e, s, ⟨he, -⟩, hstored⟩
  obtain rfl : e = .life .poll := List.mem_singleton.mp (List.mem_of_getElem? he)
  cases hstored

/-- An update that has stored its table, but not yet opened the gate when the server is polled. -/
theorem early_shutdown_storedTable :
    ∃ s v w, (start {}).run? parkedRun = some s ∧
      s.run? [.life .drain, .task (.update {}), .task (.advanceUpdate 0),
        .task (.advanceUpdate 0)] = some v ∧
      v.run? [.life .poll, .task (.advanceUpdate 0), .task (.advanceUpdate 0)] = some w ∧
      v.tasks.server.ready = false ∧ w.tasks.server.ready = true ∧
      w.lifecycle.result = some (.ok ()) ∧ ∀ kind, w.lifecycle.listener kind = .unbound := by
  obtain ⟨s, hs, hrunning⟩ : ∃ s, (start {}).run? parkedRun = some s ∧
      s.lifecycle.gate.draining = false := ⟨_, rfl, rfl⟩
  obtain ⟨s', v, w, hs', hv, hw, hnotReady, hready⟩ : ∃ s v w,
      (start {}).run? parkedRun = some s ∧
      s.run? [.life .drain, .task (.update {}), .task (.advanceUpdate 0),
        .task (.advanceUpdate 0)] = some v ∧
      v.run? [.life .poll, .task (.advanceUpdate 0), .task (.advanceUpdate 0)] = some w ∧
      v.tasks.server.ready = false ∧ w.tasks.server.ready = true :=
    ⟨_, _, _, rfl, rfl, rfl, rfl, rfl⟩
  obtain rfl := Option.some.inj (hs.symm.trans hs')
  obtain ⟨-, -, -, hlater⟩ := early_shutdown hs not_stores_parkedRun hrunning hv (by simp)
  obtain ⟨hreturned, hunbound⟩ := (hlater _ _ hw).1 hnotReady
  exact ⟨s, v, w, hs, hv, hw, hnotReady, hready, hreturned, hunbound⟩

/-- An update that opens the gate between the signal and the next poll lets the server bind its
listeners, or fail where it cannot. -/
theorem early_shutdown_overtaken :
    ∃ s v w u, (start {}).run? parkedRun = some s ∧ (∀ m i p, ¬ Stores {} parkedRun m i p) ∧
      s.lifecycle.gate.draining = false ∧
      s.run? (.life .drain :: .task (.update {}) ::
        List.replicate 4 (.task (.advanceUpdate 0))) = some v ∧
      v.run? [.life .poll, .life (.bind .http true)] = some w ∧
      w.lifecycle.http.isListening = true ∧
      v.run? [.life .poll, .life (.bind .http false), .life (.bind .https false),
        .life .finish] = some u ∧
      u.lifecycle.result = some (.error ⟨.http, { ip := .v4 0 0 0 0, port := 80 }⟩) :=
  ⟨_, _, _, _, rfl, not_stores_parkedRun, rfl, rfl, rfl, rfl, rfl, rfl⟩

end RunningServer

end IngressProxy

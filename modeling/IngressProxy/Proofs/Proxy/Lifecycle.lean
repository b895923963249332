import IngressProxy.Proxy.Lifecycle
import Mathlib.Data.List.Basic

namespace IngressProxy

theorem Gate.isSet_step (g : Gate) (e : Event) : (g.step e).isSet = (g.isSet || e = .set) := by
  cases e <;> by_cases hset : g.isSet <;> by_cases hdraining : g.draining <;>
    simp [step, hset, hdraining]

namespace Lifecycle

/-- What an act does, and where it is possible. -/
inductive Transition (s : Lifecycle) : Event → Lifecycle → Prop where
  | update : Transition s .update { s with gate := s.gate.step .set }
  | drain :
    Transition s .drain
      { s with
        gate := s.gate.step .drain
        http := s.http.modify (·.step .drain)
        https := s.https.modify (·.step .drain) }
  | poll (hwaiting : s.admission = none) (result : Option (Except BindFault Unit))
      (hresult : result =
        if ({ s with gate := s.gate.step (.poll 0) } : Lifecycle).admission = some .cancelled then
          some (.ok ())
        else s.result) :
    Transition s .poll { s with gate := s.gate.step (.poll 0), result }
  | bind (kind : ListenerKind) (free : Bool) (hadmitted : s.admission = some .opened)
      (hunbound : s.listener kind = .unbound) :
    Transition s (.bind kind free)
      (s.setListener kind
        (if free then .bound { tls := kind = .https, draining := s.gate.draining } else .failed))
  | accept (kind : ListenerKind) (e : AcceptLoop.Event) (loop : AcceptLoop)
      (hbound : s.listener kind = .bound loop) :
    Transition s (.accept kind e) (s.setListener kind (.bound (loop.step e)))
  | finish (hrunning : s.result.isNone) (hhttp : s.http.hasEnded) (hhttps : s.https.hasEnded) :
    Transition s .finish { s with result := some s.joined }

/-- Every act is a transition. -/
theorem transition_of_step? {s s' : Lifecycle} {e : Event} (h : s.step? e = some s') :
    Transition s e s' := by
  cases e with
  | update =>
    obtain rfl : _ = s' := Option.some.inj h
    exact .update
  | drain =>
    obtain rfl : _ = s' := Option.some.inj h
    exact .drain
  | poll =>
    cases hwaiting : s.admission with
    | some r => simp [step?, hwaiting] at h
    | none =>
      simp only [step?, hwaiting, Option.isSome_none, Bool.false_eq_true, if_false,
        Option.some.injEq] at h
      split at h
      · rename_i hcancelled
        subst h
        exact .poll hwaiting _ (if_pos hcancelled).symm
      · rename_i hother
        subst h
        exact .poll hwaiting _ (if_neg hother).symm
  | bind kind free =>
    cases hadmitted : s.admission with
    | none => simp [step?, hadmitted] at h
    | some r =>
      cases hunbound : s.listener kind with
      | failed => simp [step?, hadmitted, hunbound] at h
      | bound loop => simp [step?, hadmitted, hunbound] at h
      | unbound =>
        cases r with
        | cancelled => simp [step?, hadmitted, hunbound] at h
        | opened =>
          obtain rfl : _ = s' := by simpa [step?, hadmitted, hunbound] using h
          exact .bind kind free hadmitted hunbound
  | accept kind e =>
    cases hbound : s.listener kind with
    | unbound => simp [step?, hbound] at h
    | failed => simp [step?, hbound] at h
    | bound loop =>
      obtain rfl : _ = s' := by simpa [step?, hbound] using h
      exact .accept kind e loop hbound
  | finish =>
    by_cases hended : s.result.isNone ∧ s.http.hasEnded ∧ s.https.hasEnded
    · rw [step?, if_pos hended] at h
      obtain rfl : _ = s' := Option.some.inj h
      exact .finish hended.1 hended.2.1 hended.2.2
    · rw [step?, if_neg hended] at h
      cases h

/-- Whether a server has got past its gate: its wait found the gate open, or one of its listeners was
tried to be bound. -/
def HasPassed (s : Lifecycle) : Prop :=
  s.admission = some .opened ∨ ∃ kind, s.listener kind ≠ .unbound

theorem setListener_gate (s : Lifecycle) (kind : ListenerKind) (l : Listener) :
    (s.setListener kind l).gate = s.gate := by
  cases kind <;> rfl

theorem isSet_of_transition {s s' : Lifecycle} {e : Event} (h : Transition s e s') :
    s'.gate.isSet = (s.gate.isSet || e = .update) := by
  cases h with
  | update => simp [Gate.isSet_step]
  | drain => simp [Gate.isSet_step]
  | poll => simp [Gate.isSet_step]
  | bind => simp [setListener_gate]
  | accept => simp [setListener_gate]
  | finish => simp

/-- Shutdown wakes the wait at the gate and does not end it. -/
theorem hasPassed_of_drain {s : Lifecycle} {g : Gate} (hg : g = s.gate.step .drain)
    {f : AcceptLoop → AcceptLoop}
    (h : ({ s with gate := g, http := s.http.modify f, https := s.https.modify f } :
      Lifecycle).HasPassed) : s.HasPassed := by
  obtain hadmitted | ⟨kind, hkind⟩ := h
  · left
    rw [← hadmitted, hg]
    unfold admission Gate.step
    by_cases hdraining : s.gate.draining
    · simp [hdraining]
    · cases hwaits : s.gate.waits with
      | nil => simp [hdraining]
      | cons wait waits => cases wait <;> simp [hdraining, Gate.wake]
  · refine .inr ⟨kind, fun hunbound => hkind ?_⟩
    cases kind with
    | http =>
      have hunbound : s.http = .unbound := hunbound
      simp [listener, hunbound, Listener.modify]
    | https =>
      have hunbound : s.https = .unbound := hunbound
      simp [listener, hunbound, Listener.modify]

/-- A wait that is polled passes an open gate only. -/
theorem isSet_of_admission_poll {s : Lifecycle} (hwaiting : s.admission = none)
    (h : ({ s with gate := s.gate.step (.poll 0) } : Lifecycle).admission = some .opened) :
    s.gate.isSet = true := by
  unfold admission at hwaiting h
  cases hset : s.gate.isSet with
  | true => rfl
  | false =>
    cases hwaits : s.gate.waits with
    | nil => simp [Gate.step, hwaits] at h
    | cons wait waits =>
      cases wait with
      | finished r => simp [hwaits] at hwaiting
      | due | parked =>
        cases hdraining : s.gate.draining <;>
          simp [Gate.step, Gate.poll, Gate.outcome, hwaits, hset, hdraining] at h

/-- Only an open gate is passed. -/
theorem isSet_of_hasPassed {s s' : Lifecycle} {e : Event} (hs : s.HasPassed → s.gate.isSet = true)
    (h : Transition s e s') (hpassed : s'.HasPassed) : s'.gate.isSet = true := by
  rw [isSet_of_transition h]
  cases h with
  | update => simp
  | drain => simp [hs (hasPassed_of_drain rfl hpassed)]
  | poll hwaiting =>
    obtain hadmitted | hkind := hpassed
    · simp [isSet_of_admission_poll hwaiting hadmitted]
    · simp [hs (.inr hkind)]
  | bind kind free hadmitted => simp [hs (.inl hadmitted)]
  | accept kind e loop hbound =>
    have hpassed : s.HasPassed := .inr ⟨kind, by simp [hbound]⟩
    simp [hs hpassed]
  | finish => simp [hs hpassed]

theorem listener_setListener (s : Lifecycle) (kind other : ListenerKind) (l : Listener) :
    (s.setListener kind l).listener other = if other = kind then l else s.listener other := by
  cases kind <;> cases other <;> rfl

theorem listener_modify (s : Lifecycle) (g : Gate) (f : AcceptLoop → AcceptLoop)
    (kind : ListenerKind) :
    ({ s with gate := g, http := s.http.modify f, https := s.https.modify f } : Lifecycle).listener
      kind = (s.listener kind).modify f := by
  cases kind <;> rfl

/-- What an act does to a listener: it is bound or cannot be, or its loop acts. The shutdown signal
reaches the loops of both listeners. -/
inductive ListenerChange (s : Lifecycle) (kind : ListenerKind) (e : Event) :
    Listener → Listener → Prop where
  | same (l : Listener) : ListenerChange s kind e l l
  | bind (free : Bool) (he : e = .bind kind free) (hadmitted : s.admission = some .opened) :
    ListenerChange s kind e .unbound
      (if free then .bound { tls := kind = .https, draining := s.gate.draining } else .failed)
  | act (loop : AcceptLoop) (act : AcceptLoop.Event)
      (he : e = .drain ∧ act = .drain ∨ e = .accept kind act) :
    ListenerChange s kind e (.bound loop) (.bound (loop.step act))

theorem listenerChange_of_transition {s s' : Lifecycle} {e : Event} (h : Transition s e s')
    (kind : ListenerKind) : ListenerChange s kind e (s.listener kind) (s'.listener kind) := by
  cases h with
  | update => exact .same _
  | drain =>
    rw [listener_modify]
    cases s.listener kind with
    | unbound => exact .same _
    | failed => exact .same _
    | bound loop => exact .act loop .drain (.inl ⟨rfl, rfl⟩)
  | poll => exact .same _
  | bind bound free hadmitted hunbound =>
    rw [listener_setListener]
    split
    · rename_i heq
      subst heq
      rw [hunbound]
      exact .bind free rfl hadmitted
    · exact .same _
  | accept bound act loop hbound =>
    rw [listener_setListener]
    split
    · rename_i heq
      subst heq
      rw [hbound]
      exact .act loop act (.inr rfl)
    · exact .same _
  | finish => exact .same _

/-- Where a loop comes from: its listener was just bound, or it was there before. -/
theorem ListenerChange.to_bound {s : Lifecycle} {kind : ListenerKind} {e : Event} {l : Listener}
    {loop : AcceptLoop} (h : ListenerChange s kind e l (.bound loop)) :
    loop = { tls := kind = .https, draining := s.gate.draining } ∨
    ∃ old, l = .bound old ∧
      (loop = old ∨
        ∃ act, (e = .drain ∧ act = .drain ∨ e = .accept kind act) ∧ loop = old.step act) := by
  generalize hnew : Listener.bound loop = new at h
  cases h with
  | same => exact .inr ⟨loop, hnew.symm, .inl rfl⟩
  | bind free =>
    cases free with
    | true => exact .inl (Listener.bound.inj hnew)
    | false => cases hnew
  | act old act he => exact .inr ⟨old, rfl, .inr ⟨act, he, Listener.bound.inj hnew⟩⟩

/-- A listener stays bound. -/
theorem ListenerChange.of_bound {s : Lifecycle} {kind : ListenerKind} {e : Event} {l : Listener}
    {old : AcceptLoop} (h : ListenerChange s kind e (.bound old) l) :
    ∃ loop, l = .bound loop ∧
      (loop = old ∨
        ∃ act, (e = .drain ∧ act = .drain ∨ e = .accept kind act) ∧ loop = old.step act) := by
  cases h with
  | same => exact ⟨old, rfl, .inl rfl⟩
  | act _ act he => exact ⟨old.step act, rfl, .inr ⟨act, he, rfl⟩⟩

end Lifecycle

end IngressProxy

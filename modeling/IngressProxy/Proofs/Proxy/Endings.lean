import IngressProxy.Proofs.Proxy.AcceptLoop
import IngressProxy.Proofs.Proxy.Lifecycle

namespace IngressProxy

theorem Gate.draining_step (g : Gate) (e : Event) :
    (g.step e).draining = (g.draining || e = .drain) := by
  cases e <;> by_cases hset : g.isSet <;> by_cases hdraining : g.draining <;>
    simp [step, hset, hdraining]

theorem Gate.waits_step (g : Gate) {e : Event} (he : e = .set ∨ e = .drain) :
    (g.step e).waits = g.waits ∨ (g.step e).waits = g.waits.map wake := by
  obtain rfl | rfl := he <;> simp only [step] <;> split <;> simp

namespace Lifecycle

variable {s s' : Lifecycle} {e : Event}

/-- The fault of the first listener that could not be bound. -/
def firstFault? (s : Lifecycle) : Option BindFault :=
  ([ListenerKind.http, .https].find? fun kind => s.listener kind = .failed).map fun kind =>
    { kind, address := s.address kind }

theorem joined_of_firstFault? {f : BindFault} (h : s.firstFault? = some f) :
    s.joined = .error f := by
  cases hhttp : s.http <;> cases hhttps : s.https <;>
    simp_all [firstFault?, joined, outcome, listener, bind, Except.bind]

theorem address_eq (h : s'.config = s.config) (kind : ListenerKind) :
    s'.address kind = s.address kind := by
  cases kind <;> simp [address, h]

theorem joined_congr (hconfig : s'.config = s.config)
    (hfailed : ∀ kind, s'.listener kind = .failed ↔ s.listener kind = .failed) :
    s'.joined = s.joined := by
  have houtcome (kind : ListenerKind) : s'.outcome kind = s.outcome kind := by
    have hkind := hfailed kind
    have haddress := address_eq hconfig kind
    unfold outcome
    split <;> split <;> simp_all
  simp only [joined, houtcome]

section Listeners

variable {kind : ListenerKind} {l l' : Listener}

theorem ListenerChange.hasEnded (h : ListenerChange s kind e l l') (hl : l.hasEnded = true) :
    l'.hasEnded = true := by
  cases h with
  | same => exact hl
  | bind => cases hl
  | act loop act =>
    simp only [Listener.hasEnded, decide_eq_true_eq] at hl ⊢
    exact AcceptLoop.phase_step_of_stopped hl act

/-- Once a listener has ended, it is known whether it could be bound. -/
theorem ListenerChange.failed_iff (h : ListenerChange s kind e l l') (hl : l.hasEnded = true) :
    l' = .failed ↔ l = .failed := by
  cases h with
  | same => exact Iff.rfl
  | bind => cases hl
  | act => exact iff_of_false nofun nofun

end Listeners

theorem config_of_transition (h : Transition s e s') : s'.config = s.config := by
  cases h with
  | bind kind | accept kind => cases kind <;> rfl
  | _ => rfl

theorem draining_of_transition (h : Transition s e s') :
    s'.gate.draining = (s.gate.draining || e = .drain) := by
  cases h with
  | bind | accept => simp [setListener_gate]
  | _ => simp [Gate.draining_step]

/-- To be woken does not change how a wait has ended. -/
theorem admission_of_wake (h : s'.gate.waits = s.gate.waits ∨
    s'.gate.waits = s.gate.waits.map Gate.wake) : s'.admission = s.admission := by
  unfold admission
  obtain h | h := h <;> rw [h]
  cases s.gate.waits with
  | nil => rfl
  | cons wait waits => cases wait <;> rfl

theorem admission_of_transition {r : WaitResult} (h : Transition s e s')
    (hadmission : s.admission = some r) : s'.admission = some r := by
  rw [← hadmission]
  cases h with
  | update => exact admission_of_wake (s.gate.waits_step (.inl rfl))
  | drain => exact admission_of_wake (s.gate.waits_step (.inr rfl))
  | poll hwaiting => simp [hadmission] at hwaiting
  | bind kind => cases kind <;> rfl
  | accept kind => cases kind <;> rfl
  | finish => rfl

/-- What holds of a server in all its runs. -/
structure Orderly (s : Lifecycle) : Prop where
  passed : s.HasPassed → s.gate.isSet = true
  admitted : ∀ kind, s.listener kind ≠ .unbound → s.admission = some .opened
  signaled : ∀ kind loop, s.listener kind = .bound loop →
    loop.draining = true ∨ loop.phase = .stopped → s.gate.draining = true
  returned : ∀ r, s.result = some r →
    s.admission = some .cancelled ∧ r = .ok () ∨
    (∀ kind, (s.listener kind).hasEnded = true) ∧ r = s.joined

theorem orderly_start (config : Server.Config) : ({ config } : Lifecycle).Orderly where
  passed := by
    rintro (h | ⟨_ | _, h⟩)
    · cases h
    all_goals exact absurd rfl h
  admitted := by rintro (_ | _) h <;> exact absurd rfl h
  signaled := by rintro (_ | _) loop h <;> cases h
  returned := nofun

theorem Orderly.admitted_of_hasEnded (hs : s.Orderly) {kind : ListenerKind}
    (h : (s.listener kind).hasEnded = true) : s.admission = some .opened :=
  hs.admitted kind fun hunbound => by
    rw [hunbound] at h
    cases h

/-- A server that has returned waits at the gate no more, and binds no listener any more. -/
theorem Orderly.settled (hs : s.Orderly) {r : Except BindFault Unit} (h : s.result = some r) :
    s.admission ≠ none ∧ ∀ kind, s.listener kind = .unbound → s.admission ≠ some .opened := by
  obtain ⟨hcancelled, -⟩ | ⟨hended, -⟩ := hs.returned r h
  · simp [hcancelled]
  · have hopened := hs.admitted_of_hasEnded (hended .http)
    refine ⟨by simp [hopened], fun kind hunbound => ?_⟩
    have hkind := hended kind
    rw [hunbound] at hkind
    cases hkind

/-- A server returns only once. -/
theorem Orderly.result_of_transition (hs : s.Orderly) (h : Transition s e s')
    {r : Except BindFault Unit} (hr : s.result = some r) : s'.result = some r := by
  cases h with
  | update | drain => exact hr
  | poll hwaiting => exact absurd hwaiting (hs.settled hr).1
  | bind kind | accept kind => cases kind <;> exact hr
  | finish hrunning => simp [hr] at hrunning

/-- Where a server returns, either its wait was cancelled, or both its listeners have ended. -/
theorem Orderly.returned_of_transition (hs : s.Orderly) (h : Transition s e s')
    {r : Except BindFault Unit} (hr : s'.result = some r) :
    s'.admission = some .cancelled ∧ r = .ok () ∨
    (∀ kind, (s.listener kind).hasEnded = true) ∧ r = s.joined := by
  -- Acts other than the poll and the return leave the result as it is.
  have hsame (hresult : s'.result = s.result) :
      s'.admission = some .cancelled ∧ r = .ok () ∨
      (∀ kind, (s.listener kind).hasEnded = true) ∧ r = s.joined := by
    obtain ⟨hcancelled, hok⟩ | hended := hs.returned r (hresult ▸ hr)
    · exact .inl ⟨admission_of_transition h hcancelled, hok⟩
    · exact .inr hended
  cases h with
  | update | drain => exact hsame rfl
  | bind kind | accept kind => cases kind <;> exact hsame rfl
  | poll hwaiting result hresult =>
    have hnone : s.result = none := by
      by_contra hsome
      obtain ⟨r, hr⟩ := Option.ne_none_iff_exists'.mp hsome
      exact (hs.settled hr).1 hwaiting
    split at hresult
    · rename_i hcancelled
      exact .inl ⟨hcancelled, (Option.some.inj (hr.symm.trans hresult))⟩
    · exact absurd (hr.symm.trans (hresult.trans hnone)) nofun
  | finish hrunning hhttp hhttps =>
    refine .inr ⟨?_, (Option.some.inj hr).symm⟩
    rintro (_ | _)
    · exact hhttp
    · exact hhttps

/-- Where the shutdown signal reaches both listeners alike, every act keeps the order. -/
theorem Orderly.of_transition (hs : s.Orderly) (h : Transition s e s')
    (hshared : ∀ kind, e ≠ .accept kind .drain) : s'.Orderly where
  passed := isSet_of_hasPassed hs.passed h
  admitted kind hbound := by
    have hchange := listenerChange_of_transition h kind
    refine admission_of_transition h ?_
    generalize hlistener : s.listener kind = l at hchange
    generalize s'.listener kind = l' at hchange hbound
    cases hchange with
    | same => exact hs.admitted kind (hlistener ▸ hbound)
    | bind free he hadmitted => exact hadmitted
    | act loop act => exact hs.admitted kind (by simp [hlistener])
  signaled kind loop hloop hended := by
    have hchange := listenerChange_of_transition h kind
    rw [hloop] at hchange
    rw [draining_of_transition h]
    obtain rfl | ⟨old, hold, rfl | ⟨act, he, rfl⟩⟩ := hchange.to_bound
    · have hdraining : s.gate.draining = true := by simpa using hended
      simp [hdraining]
    · simp [hs.signaled kind loop hold hended]
    · obtain ⟨rfl, rfl⟩ | rfl := he
      · simp
      · have hact : act ≠ .drain := fun hact => hshared kind (by rw [hact])
        have hearlier : old.draining = true ∨ old.phase = .stopped := by
          obtain hdraining | hstopped := hended
          · exact .inl (by simpa [AcceptLoop.draining_step, hact] using hdraining)
          · exact (old.stopped_of_step hstopped).symm
        simp [hs.signaled kind old hold hearlier]
  returned r hr := by
    obtain hcancelled | ⟨hended, rfl⟩ := hs.returned_of_transition h hr
    · exact .inl hcancelled
    · have hchange := listenerChange_of_transition h
      refine .inr ⟨fun kind => (hchange kind).hasEnded (hended kind), ?_⟩
      exact (joined_congr (config_of_transition h)
        fun kind => (hchange kind).failed_iff (hended kind)).symm

/-- A shutdown that nothing holds up stays so. -/
theorem Orderly.isDrained_of_transition (hs : s.Orderly) (h : Transition s e s')
    (hdrained : s.isDrained = true) : s'.isDrained = true := by
  simp only [isDrained, Bool.and_eq_true] at hdrained ⊢
  obtain ⟨⟨⟨hdraining, hresult⟩, hhttp⟩, hhttps⟩ := hdrained
  obtain ⟨r, hr⟩ := Option.isSome_iff_exists.mp hresult
  have hreleased (kind : ListenerKind) (hkind : (s.listener kind).isReleased = true) :
      (s'.listener kind).isReleased = true := by
    have hchange := listenerChange_of_transition h kind
    generalize hlistener : s.listener kind = l at hchange hkind
    generalize s'.listener kind = l' at hchange ⊢
    cases hchange with
    | same => exact hkind
    | bind free he hadmitted => exact absurd hadmitted ((hs.settled hr).2 kind hlistener)
    | act loop act => exact AcceptLoop.isReleased_step hkind act
  refine ⟨⟨⟨?_, ?_⟩, hreleased .http hhttp⟩, hreleased .https hhttps⟩
  · simp [draining_of_transition h, hdraining]
  · rw [hs.result_of_transition h hr]
    rfl

end Lifecycle

end IngressProxy

import IngressProxy.Proofs.Proxy.AcceptLoop
import IngressProxy.Proofs.Proxy.Lifecycle
import IngressProxy.Proofs.Runs

namespace IngressProxy

namespace Connection

/-- Whether the task can do anything by itself. -/
def CanMove (draining : Bool) (c : Connection) : Prop :=
  ∃ e c', c.step? draining (.server e) = some c'

/-- What the task of a connection can be doing, at a listener with or without TLS. -/
structure Fits (tls : Bool) (c : Connection) : Prop where
  idle : c.received = false → c.busy = false
  plain : c.phase = .handshaking → tls = true
  silent : tls = true → c.received = false → c.phase = .handshaking ∨ c.phase = .released

theorem fits_accepted (tls : Bool) (number : Nat) : (accepted tls number).Fits tls where
  idle _ := rfl
  plain h := by
    cases tls with
    | true => rfl
    | false => cases h
  silent htls _ := .inl (by simp [accepted, htls])

theorem Fits.clientStep {tls : Bool} {c : Connection} (h : c.Fits tls) (e : ClientEvent) :
    (c.clientStep e).Fits tls := by
  cases e with
  | receive => exact ⟨nofun, h.plain, fun _ hsilent => nomatch hsilent⟩
  | hangUp => exact ⟨fun _ => rfl, nofun, fun _ _ => .inr rfl⟩

theorem Fits.serverStep {tls draining : Bool} {c c' : Connection} {e : ServerEvent} (h : c.Fits tls)
    (hstep : c.serverStep? draining e = some c') : c'.Fits tls := by
  cases e with
  | handshake succeeded =>
    simp only [serverStep?, Option.ite_none_right_eq_some, Option.some.injEq] at hstep
    obtain ⟨⟨-, hreceived⟩, rfl⟩ := hstep
    refine ⟨h.idle, fun hphase => ?_, fun _ hsilent => ?_⟩
    · cases succeeded <;> simp at hphase
    · simp [hreceived] at hsilent
  | beginRequest =>
    simp only [serverStep?, Option.ite_none_right_eq_some, Option.some.injEq] at hstep
    obtain ⟨⟨-, hreceived, -⟩, rfl⟩ := hstep
    exact ⟨fun hsilent => by simp [hreceived] at hsilent, h.plain, h.silent⟩
  | respond keeps =>
    simp only [serverStep?, Option.ite_none_right_eq_some, Option.some.injEq] at hstep
    obtain ⟨hbusy, rfl⟩ := hstep
    refine ⟨fun _ => rfl, fun hphase => ?_, fun _ hsilent => ?_⟩
    · cases keeps with
      | true => exact h.plain hphase
      | false => cases hphase
    · have hidle := h.idle hsilent
      simp [hbusy] at hidle
  | seeDrain =>
    simp only [serverStep?, Option.ite_none_right_eq_some, Option.some.injEq] at hstep
    obtain ⟨⟨-, hserving⟩, rfl⟩ := hstep
    refine ⟨h.idle, ?_, fun htls hsilent => ?_⟩
    · intro hphase
      cases hphase
    · obtain hphase | hphase := h.silent htls hsilent <;> rw [hserving] at hphase <;> cases hphase
  | close =>
    simp only [serverStep?, Option.ite_none_right_eq_some, Option.some.injEq] at hstep
    obtain ⟨-, rfl⟩ := hstep
    refine ⟨h.idle, ?_, fun _ _ => .inr rfl⟩
    intro hphase
    cases hphase

theorem Fits.step {tls draining : Bool} {c c' : Connection} {e : Event} (h : c.Fits tls)
    (hstep : c.step? draining e = some c') : c'.Fits tls := by
  unfold step? at hstep
  split at hstep
  · cases hstep
  · cases e with
    | client e =>
      obtain rfl : c.clientStep e = c' := Option.some.inj hstep
      exact h.clientStep e
    | server e => exact h.serverStep hstep

/-- A handshake waits for the client alone. -/
theorem not_canMove_of_handshaking {c : Connection} (hphase : c.phase = .handshaking)
    (hsilent : c.received = false) (hidle : c.busy = false) (draining : Bool) :
    ¬c.CanMove draining := by
  rintro ⟨e, c', hstep⟩
  cases e <;> simp [step?, serverStep?, hphase, hsilent, hidle] at hstep

/-- Without a request to be answered, a connection past its handshake closes at shutdown. -/
theorem released_of_settle {c : Connection} (hphase : c.phase ≠ .handshaking)
    (hidle : c.busy = false) : (c.settle true).phase = .released := by
  cases hc : c.phase <;> simp_all [settle, step?, serverStep?]

theorem canMove_of_phase {c : Connection} (hphase : c.phase ≠ .handshaking)
    (hheld : c.phase ≠ .released) (hidle : c.busy = false) : c.CanMove true := by
  cases hc : c.phase with
  | handshaking => exact absurd hc hphase
  | serving =>
    exact ⟨.seeDrain, { c with phase := .closing }, by simp [step?, serverStep?, hc]⟩
  | closing =>
    exact ⟨.close, { c with phase := .released }, by simp [step?, serverStep?, hc, hidle]⟩
  | released => exact absurd hc hheld

end Connection

namespace Lifecycle

variable {config : Server.Config} {events : List Event} {s : Lifecycle}

/-- Whether the loop of each listener is of its kind, and so are its tasks. -/
def TasksFit (s : Lifecycle) : Prop :=
  ∀ kind loop, s.listener kind = .bound loop →
    loop.tls = (kind = .https : Bool) ∧ ∀ c ∈ loop.tasks, c.Fits loop.tls

theorem tasksFit_of_transition {s s' : Lifecycle} {e : Event} (hs : s.TasksFit)
    (h : Transition s e s') : s'.TasksFit := by
  intro kind loop hloop
  have hchange := listenerChange_of_transition h kind
  rw [hloop] at hchange
  obtain rfl | ⟨old, hold, rfl | ⟨act, -, rfl⟩⟩ := hchange.to_bound
  · exact ⟨rfl, nofun⟩
  · exact hs kind loop hold
  · obtain ⟨htls, htasks⟩ := hs kind old hold
    rw [AcceptLoop.tls_step]
    exact ⟨htls, AcceptLoop.forall_tasks_step (Connection.fits_accepted _)
      (fun c event c' hc hstep => hc.step hstep) htasks act⟩

theorem tasksFit_of_run? (h : ({ config } : Lifecycle).run? events = some s) : s.TasksFit := by
  have hstart : ({ config } : Lifecycle).TasksFit := by
    rintro (_ | _) loop hloop <;> cases hloop
  exact foldlM_invariant h hstart fun _ _ _ _ hs hstep =>
    tasksFit_of_transition hs (transition_of_step? hstep)

/-- Whether the task of a connection at the listener with TLS waits for the client's first byte. -/
def Awaits (i : Nat) (s : Lifecycle) : Prop :=
  ∃ loop c, s.https = .bound loop ∧ loop.tasks[i]? = some c ∧ c.phase = .handshaking ∧
    c.received = false ∧ c.busy = false

theorem isDrained_of_awaits {i : Nat} (h : s.Awaits i) : s.isDrained = false := by
  obtain ⟨loop, c, hbound, hc, hphase, -⟩ := h
  have hheld : loop.isReleased = false := by
    simp only [AcceptLoop.isReleased, Bool.and_eq_false_iff, List.all_eq_false]
    exact .inr ⟨c, List.mem_of_getElem? hc, by simp [hphase]⟩
  simp [isDrained, hbound, Listener.isReleased, hheld]

/-- Only the client ends the wait. -/
theorem awaits_of_transition {i : Nat} {s s' : Lifecycle} {e : Event} (hs : s.Awaits i)
    (hclient : ∀ event, e ≠ .accept .https (.task i (.client event))) (h : Transition s e s') :
    s'.Awaits i := by
  obtain ⟨loop, c, hbound, hc, hphase, hsilent, hidle⟩ := hs
  have hlistener : s.listener .https = .bound loop := hbound
  have hchange := listenerChange_of_transition h .https
  rw [hlistener] at hchange
  obtain ⟨loop', hbound', rfl | ⟨act, he, rfl⟩⟩ := hchange.of_bound
  · exact ⟨loop', c, hbound', hc, hphase, hsilent, hidle⟩
  · refine ⟨loop.step act, c, hbound', ?_, hphase, hsilent, hidle⟩
    obtain hsame | ⟨event, rfl, htask⟩ := AcceptLoop.getElem?_tasks_step hc act
    · exact hsame
    · cases event with
      | client event =>
        obtain ⟨-, hdrain⟩ | he := he
        · cases hdrain
        · exact absurd he (hclient event)
      | server event =>
        have hnone : c.step? loop.draining (.server event) = none := by
          by_contra hsome
          obtain ⟨c', hc'⟩ := Option.ne_none_iff_exists'.mp hsome
          exact Connection.not_canMove_of_handshaking hphase hsilent hidle _ ⟨event, c', hc'⟩
        simpa [hnone] using htask

/-- After shutdown has begun, the task of a connection on which nothing was received goes on by itself,
and is released, exactly if it is one of the plain listener. One of the listener with TLS does nothing
by itself, and as long as its client does nothing either, the shutdown is not complete. -/
theorem silent_client {kind : ListenerKind} {loop : AcceptLoop} {i : Nat} {c : Connection}
    (h : ({ config } : Lifecycle).run? events = some s) (hloop : s.listener kind = .bound loop)
    (hdraining : loop.draining = true) (hc : loop.tasks[i]? = some c)
    (hsilent : c.received = false) (hheld : c.phase ≠ .released) :
    (c.CanMove loop.draining ↔ kind = .http) ∧
    (kind = .http → (c.settle loop.draining).phase = .released) ∧
    (kind = .https → ∀ more s', s.run? more = some s' →
      (∀ event, .accept .https (.task i (.client event)) ∉ more) → s'.isDrained = false) := by
  obtain ⟨htls, htasks⟩ := tasksFit_of_run? h kind loop hloop
  have hfits := htasks c (List.mem_of_getElem? hc)
  have hidle := hfits.idle hsilent
  rw [hdraining]
  cases kind with
  | http =>
    have hphase : c.phase ≠ .handshaking := fun hphase => by
      have hplain := hfits.plain hphase
      simp [htls] at hplain
    exact ⟨iff_of_true (Connection.canMove_of_phase hphase hheld hidle) rfl,
      fun _ => Connection.released_of_settle hphase hidle, nofun⟩
  | https =>
    have hphase : c.phase = .handshaking := by
      obtain hphase | hphase := hfits.silent (by simp [htls]) hsilent
      · exact hphase
      · exact absurd hphase hheld
    have hstuck := Connection.not_canMove_of_handshaking hphase hsilent hidle true
    refine ⟨iff_of_false hstuck nofun, nofun, fun _ more s' hmore hclient => ?_⟩
    have hawaits : s.Awaits i := ⟨loop, c, hloop, hc, hphase, hsilent, hidle⟩
    refine isDrained_of_awaits (foldlM_invariant hmore hawaits fun s e s' he hs hstep => ?_)
    exact awaits_of_transition hs (fun event heq => hclient event (heq ▸ he))
      (transition_of_step? hstep)

/-- A run in which a client connects to each listener and sends nothing, and shutdown begins. -/
def silentRun : List Event :=
  [.update, .poll, .bind .http true, .bind .https true, .accept .http (.arrive (.connection 0)),
    .accept .https (.arrive (.connection 0)), .accept .http (.poll .work),
    .accept .https (.poll .work), .drain]

/-- What the server then does by itself: both loops end, the plain connection is closed, and the server
returns. -/
def closingRun : List Event :=
  [.accept .http (.poll .shutdown), .accept .https (.poll .shutdown),
    .accept .http (.task 0 (.server .seeDrain)), .accept .http (.task 0 (.server .close)), .finish]

theorem silent_client_silentRun :
    ∃ s s' loop c, ({} : Lifecycle).run? silentRun = some s ∧ s.https = .bound loop ∧
      loop.tasks[0]? = some c ∧ ¬c.CanMove loop.draining ∧
      s.run? closingRun = some s' ∧ s'.result = some (.ok ()) ∧ s'.isDrained = false := by
  obtain ⟨s, loop, hs, hloop, hdraining, htask⟩ : ∃ s loop,
      ({} : Lifecycle).run? silentRun = some s ∧ s.https = .bound loop ∧ loop.draining = true ∧
      loop.tasks[0]? = some (Connection.accepted true 0) := ⟨_, _, rfl, rfl, rfl, rfl⟩
  obtain ⟨s', hs', hresult⟩ : ∃ s', (({} : Lifecycle).run? silentRun).bind (·.run? closingRun) =
      some s' ∧ s'.result = some (.ok ()) := ⟨_, rfl, rfl⟩
  rw [hs] at hs'
  have hlistener : s.listener .https = .bound loop := hloop
  obtain ⟨hmoves, -, hblocked⟩ := silent_client hs hlistener hdraining htask rfl (by decide)
  have hdrained := hblocked rfl closingRun s' hs' (by simp [closingRun])
  exact ⟨s, s', loop, _, hs, hloop, htask, by simpa using hmoves, hs', hresult, hdrained⟩

/-- A connection at the listener with TLS waits for its client alone, though shutdown has begun. -/
theorem silent_client_stuck :
    ∃ s loop c, ({} : Lifecycle).run? silentRun = some s ∧ s.https = .bound loop ∧
      loop.draining = true ∧ loop.tasks[0]? = some c ∧ c.received = false ∧
      c.phase ≠ .released ∧ ∀ e, c.step? loop.draining (.server e) = none := by
  refine ⟨_, _, _, rfl, rfl, rfl, rfl, rfl, nofun, fun e => ?_⟩
  cases e <;> rfl

end Lifecycle

end IngressProxy

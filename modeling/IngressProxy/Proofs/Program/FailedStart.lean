import IngressProxy.Program.Running
import IngressProxy.Proofs.Proxy.Endings
import IngressProxy.Proofs.Runs

namespace IngressProxy.RunningProgram

variable {config : Server.Config} {events : List Event} {s s' : RunningProgram} {e : Event}

inductive Transition (s : RunningProgram) : Event → RunningProgram → Prop where
  | life (e : Lifecycle.Event) (lifecycle : Lifecycle) (hother : e ≠ .drain)
      (hshared : ∀ kind, e ≠ .accept kind .drain)
      (hlife : Lifecycle.Transition s.lifecycle e lifecycle) :
    Transition s (.life e) { s with lifecycle }
  | signal (lifecycle : Lifecycle) (hlife : Lifecycle.Transition s.lifecycle .drain lifecycle) :
    Transition s .signal { s with lifecycle, signals := s.signals + 1 }
  | proxyEnds (r : Except BindFault Unit) (hresult : s.lifecycle.result = some r) :
    Transition s .proxyEnds { s with supervisor.proxy := some r }
  | watcherEnds (o : WatchOutcome) :
    Transition s (.watcherEnds o) { s with supervisor.watcher := some o }
  | shutdownEnds (o : ShutdownOutcome) (hcan : s.canShutDown o = true)
      (hfirst : s.supervisor.shutdown = none) :
    Transition s (.shutdownEnds o) { s with supervisor.shutdown := some o }
  | see (p : Part) (phase : SupervisorPhase)
      (hphase : s.supervisor.phase = .racing ∨
        s.supervisor.phase = .awaitingShutdown ∧ p = .shutdown)
      (hsight : s.supervisor.sight? p = some phase) :
    Transition s (.see p) { s with supervisor.phase := phase }

/-- Every act is a transition. -/
theorem transition_of_step? (h : s.step? e = some s') : Transition s e s' := by
  cases e with
  | life e =>
    have hother : e ≠ .drain := by
      rintro rfl
      cases h
    have hshared (kind : ListenerKind) : e ≠ .accept kind .drain := by
      rintro rfl
      cases h
    have hmap : (s.lifecycle.step? e).map (fun lifecycle => { s with lifecycle }) = some s' := by
      unfold step? at h
      split at h
      all_goals simp_all
    obtain ⟨lifecycle, hlife, rfl⟩ := Option.map_eq_some_iff.mp hmap
    exact .life e lifecycle hother hshared (Lifecycle.transition_of_step? hlife)
  | signal =>
    obtain rfl : _ = s' := Option.some.inj h
    exact .signal _ .drain
  | proxyEnds =>
    obtain ⟨r, hresult, h⟩ := Option.bind_eq_some_iff.mp h
    obtain ⟨supervisor, hstep, rfl⟩ := Option.map_eq_some_iff.mp h
    simp only [Supervisor.step?, Option.ite_none_right_eq_some, Option.some.injEq] at hstep
    obtain ⟨-, rfl⟩ := hstep
    exact .proxyEnds r hresult
  | watcherEnds o =>
    obtain ⟨supervisor, hstep, rfl⟩ := Option.map_eq_some_iff.mp h
    simp only [Supervisor.step?, Option.ite_none_right_eq_some, Option.some.injEq] at hstep
    obtain ⟨-, rfl⟩ := hstep
    exact .watcherEnds o
  | shutdownEnds o =>
    simp only [step?, Option.ite_none_right_eq_some] at h
    obtain ⟨hcan, h⟩ := h
    obtain ⟨supervisor, hstep, rfl⟩ := Option.map_eq_some_iff.mp h
    simp only [Supervisor.step?, Option.ite_none_right_eq_some, Option.some.injEq] at hstep
    obtain ⟨hfirst, rfl⟩ := hstep
    exact .shutdownEnds o hcan (Option.isNone_iff_eq_none.mp hfirst)
  | see p =>
    obtain ⟨supervisor, hstep, rfl⟩ := Option.map_eq_some_iff.mp h
    unfold Supervisor.step? at hstep
    dsimp only at hstep
    split at hstep
    · rename_i hphase
      obtain ⟨phase, hsight, rfl⟩ := Option.map_eq_some_iff.mp hstep
      exact .see p phase (.inl hphase) hsight
    · rename_i hphase
      split at hstep
      · obtain ⟨phase, hsight, rfl⟩ := Option.map_eq_some_iff.mp hstep
        exact .see .shutdown phase (.inr ⟨hphase, rfl⟩) hsight
      · cases hstep
    · cases hstep

/-- What holds of a program in all its runs. -/
structure Coherent (s : RunningProgram) : Prop where
  orderly : s.lifecycle.Orderly
  signaled : s.lifecycle.gate.draining = true → 0 < s.signals
  proxy : ∀ r, s.supervisor.proxy = some r → s.lifecycle.result = some r
  shutdown : s.supervisor.shutdown = some .completed →
    0 < s.signals ∧ s.lifecycle.isDrained = true
  reported : ∀ f, s.result? = some (.error (.listener f)) → s.lifecycle.result = some (.error f)
  ended : s.result? = some (.ok ()) → s.supervisor.shutdown = some .completed

theorem coherent_start (config : Server.Config) : (start config).Coherent where
  orderly := Lifecycle.orderly_start config
  signaled := nofun
  proxy := nofun
  shutdown := nofun
  reported := nofun
  ended := nofun

/-- The supervisor ends the program well only with its shutdown. -/
theorem shutdown_of_sight? {supervisor : Supervisor} {p : Part}
    (h : supervisor.sight? p = some (.ended (.ok ()))) :
    supervisor.shutdown = some .completed := by
  cases p with
  | shutdown =>
    obtain ⟨o, hshutdown, ho⟩ := Option.map_eq_some_iff.mp h
    cases o with
    | completed => exact hshutdown
    | aborted => cases ho
  | proxy =>
    obtain ⟨r, -, hr⟩ := Option.map_eq_some_iff.mp h
    cases r <;> cases hr
  | watcher =>
    obtain ⟨o, -, ho⟩ := Option.map_eq_some_iff.mp h
    cases o <;> cases ho

/-- Only the end of the server makes the supervisor end the program with the fault of a listener. -/
theorem proxy_of_sight? {supervisor : Supervisor} {p : Part} {f : BindFault}
    (h : supervisor.sight? p = some (.ended (.error (.listener f)))) :
    p = .proxy ∧ supervisor.proxy = some (.error f) := by
  cases p with
  | shutdown =>
    obtain ⟨o, -, ho⟩ := Option.map_eq_some_iff.mp h
    cases o <;> cases ho
  | proxy =>
    obtain ⟨r, hproxy, hr⟩ := Option.map_eq_some_iff.mp h
    cases r with
    | ok => cases hr
    | error g =>
      obtain rfl : g = f := by simpa using hr
      exact ⟨rfl, hproxy⟩
  | watcher =>
    obtain ⟨o, -, ho⟩ := Option.map_eq_some_iff.mp h
    cases o <;> cases ho

theorem result?_eq_some_iff {r : Except ProgramFault Unit} :
    s.result? = some r ↔ s.supervisor.phase = .ended r := by
  unfold result? Supervisor.result?
  cases s.supervisor.phase <;> simp

/-- The life of the server goes on while the supervisor does nothing. -/
theorem Coherent.of_life (hs : s.Coherent) {e : Lifecycle.Event} {lifecycle : Lifecycle}
    {signals : Nat} (hlife : Lifecycle.Transition s.lifecycle e lifecycle)
    (hshared : ∀ kind, e ≠ .accept kind .drain) (hmore : s.signals ≤ signals)
    (hsignaled : lifecycle.gate.draining = true → 0 < signals) :
    Coherent { s with lifecycle, signals } := by
  have hkept {r : Except BindFault Unit} (hr : s.lifecycle.result = some r) :
      lifecycle.result = some r := hs.orderly.result_of_transition hlife hr
  refine ⟨hs.orderly.of_transition hlife hshared, hsignaled, fun r hr => hkept (hs.proxy r hr),
    fun hcompleted => ?_, fun f hf => hkept (hs.reported f hf), hs.ended⟩
  obtain ⟨hsignals, hdrained⟩ := hs.shutdown hcompleted
  exact ⟨Nat.lt_of_lt_of_le hsignals hmore, hs.orderly.isDrained_of_transition hlife hdrained⟩

theorem Coherent.of_transition (hs : s.Coherent) (h : Transition s e s') : s'.Coherent := by
  cases h with
  | life e lifecycle hother hshared hlife =>
    refine hs.of_life hlife hshared (Nat.le_refl _) fun hdraining => hs.signaled ?_
    simpa [Lifecycle.draining_of_transition hlife, hother] using hdraining
  | signal lifecycle hlife =>
    exact hs.of_life hlife nofun (Nat.le_succ _) fun _ => Nat.succ_pos _
  | proxyEnds r hresult =>
    refine ⟨hs.orderly, hs.signaled, fun r' hr' => ?_, hs.shutdown, hs.reported, hs.ended⟩
    obtain rfl : r = r' := Option.some.inj hr'
    exact hresult
  | watcherEnds o =>
    exact ⟨hs.orderly, hs.signaled, hs.proxy, hs.shutdown, hs.reported, hs.ended⟩
  | shutdownEnds o hcan hfirst =>
    refine ⟨hs.orderly, hs.signaled, hs.proxy, fun hcompleted => ?_, hs.reported, fun hok => ?_⟩
    · obtain rfl : o = .completed := Option.some.inj hcompleted
      simpa [canShutDown] using hcan
    · have hcompleted := hs.ended hok
      simp [hfirst] at hcompleted
  | see p phase hphase hsight =>
    refine ⟨hs.orderly, hs.signaled, hs.proxy, hs.shutdown, fun f hf => ?_, fun hok => ?_⟩
    · obtain rfl : phase = .ended (.error (.listener f)) := result?_eq_some_iff.mp hf
      exact hs.proxy _ (proxy_of_sight? hsight).2
    · obtain rfl : phase = .ended (.ok ()) := result?_eq_some_iff.mp hok
      exact shutdown_of_sight? hsight

theorem Coherent.of_run? (hs : s.Coherent) (h : s.run? events = some s') : s'.Coherent :=
  foldlM_invariant h hs fun _ _ _ _ ht hstep => ht.of_transition (transition_of_step? hstep)

theorem coherent_of_run? (h : (start config).run? events = some s) : s.Coherent :=
  (coherent_start config).of_run? h

/-- For the server, an act of the program is one of its life or none. -/
theorem lifecycle_of_transition (h : Transition s e s') :
    s'.lifecycle = s.lifecycle ∨ ∃ act, Lifecycle.Transition s.lifecycle act s'.lifecycle := by
  cases h with
  | life act _ _ _ hlife => exact .inr ⟨act, hlife⟩
  | signal _ hlife => exact .inr ⟨.drain, hlife⟩
  | _ => exact .inl rfl

/-- A program ends once. -/
theorem result?_of_transition {r : Except ProgramFault Unit} (hr : s.result? = some r)
    (h : Transition s e s') : s'.result? = some r := by
  rw [result?_eq_some_iff] at hr
  cases h with
  | see p phase hphase => simp [hr] at hphase
  | _ => exact result?_eq_some_iff.mpr hr

/-- A server with a listener that could not be bound returns the fault of the first such one. -/
theorem Coherent.result_eq_error (hs : s.Coherent) {f : BindFault}
    (hfault : s.lifecycle.firstFault? = some f) {r : Except BindFault Unit}
    (hr : s.lifecycle.result = some r) :
    r = .error f ∧ ∀ kind, (s.lifecycle.listener kind).hasEnded = true := by
  obtain ⟨hcancelled, -⟩ | ⟨hended, rfl⟩ := hs.orderly.returned r hr
  · obtain ⟨kind, hkind, -⟩ := Option.map_eq_some_iff.mp hfault
    have hfailed : s.lifecycle.listener kind = .failed := by simpa using List.find?_some hkind
    have hopened := hs.orderly.admitted kind (by simp [hfailed])
    simp [hcancelled] at hopened
  · exact ⟨Lifecycle.joined_of_firstFault? hfault, hended⟩

/-- Whether an act is one of the server's return and of the supervisor that learns of it. -/
def Event.isOfProxy : Event → Prop
  | .life .finish | .proxyEnds | .see .proxy => True
  | _ => False

/-- Whether such acts alone can end the program with a fault of a listener. -/
def Reports (f : BindFault) (s : RunningProgram) : Prop :=
  ∃ tail s', (∀ e ∈ tail, e.isOfProxy) ∧ s.run? tail = some s' ∧
    s'.result? = some (.error (.listener f))

theorem Reports.of_step {f : BindFault} (h : Reports f s') (he : e.isOfProxy)
    (hstep : s.step? e = some s') : Reports f s := by
  obtain ⟨tail, last, htail, hlast, hresult⟩ := h
  refine ⟨e :: tail, last, ?_, ?_, hresult⟩
  · simpa [he] using htail
  · rw [run?, List.foldlM_cons, hstep]
    exact hlast

theorem reports_of_proxy {f : BindFault} (hphase : s.supervisor.phase = .racing)
    (hproxy : s.supervisor.proxy = some (.error f)) : Reports f s := by
  have hdone : Reports f { s with supervisor.phase := .ended (.error (.listener f)) } :=
    ⟨[], _, nofun, rfl, rfl⟩
  exact hdone.of_step (e := .see .proxy) trivial
    (by simp [step?, supervise?, Supervisor.step?, Supervisor.sight?, hphase, hproxy])

theorem reports_of_result {f : BindFault} (hphase : s.supervisor.phase = .racing)
    (hproxy : s.supervisor.proxy = none) (hresult : s.lifecycle.result = some (.error f)) :
    Reports f s := by
  have hknown : Reports f { s with supervisor.proxy := some (.error f) } :=
    reports_of_proxy hphase rfl
  exact hknown.of_step (e := .proxyEnds) trivial
    (by simp [step?, supervise?, Supervisor.step?, hresult, hproxy])

/-- As soon as both listeners have ended, no signal is needed for the fault to be reported. -/
theorem Coherent.reports (hs : s.Coherent) {f : BindFault}
    (hfault : s.lifecycle.firstFault? = some f)
    (hended : ∀ kind, (s.lifecycle.listener kind).hasEnded = true)
    (hphase : s.supervisor.phase = .racing) : Reports f s := by
  cases hproxy : s.supervisor.proxy with
  | some r =>
    obtain ⟨rfl, -⟩ := hs.result_eq_error hfault (hs.proxy r hproxy)
    exact reports_of_proxy hphase hproxy
  | none =>
    cases hresult : s.lifecycle.result with
    | some r =>
      obtain ⟨rfl, -⟩ := hs.result_eq_error hfault hresult
      exact reports_of_result hphase hproxy hresult
    | none =>
      have hreturned : Reports f { s with lifecycle.result := some s.lifecycle.joined } :=
        reports_of_result hphase hproxy (by rw [Lifecycle.joined_of_firstFault? hfault])
      have hhttp : s.lifecycle.http.hasEnded = true := hended .http
      have hhttps : s.lifecycle.https.hasEnded = true := hended .https
      exact hreturned.of_step (e := .life .finish) trivial
        (by simp [step?, Lifecycle.step?, hresult, hhttp, hhttps])

theorem result?_of_run? {r : Except ProgramFault Unit} (h : s.run? events = some s')
    (hr : s.result? = some r) : s'.result? = some r :=
  foldlM_invariant h hr fun _ _ _ _ ht hstep => result?_of_transition ht (transition_of_step? hstep)

theorem Coherent.result_of_run? (hs : s.Coherent) {r : Except BindFault Unit}
    (h : s.run? events = some s') (hr : s.lifecycle.result = some r) :
    s'.lifecycle.result = some r := by
  refine (foldlM_invariant (p := fun t => t.Coherent ∧ t.lifecycle.result = some r) h ⟨hs, hr⟩ ?_).2
  rintro t e t' - ⟨ht, hr⟩ hstep
  have hstep := transition_of_step? hstep
  refine ⟨ht.of_transition hstep, ?_⟩
  obtain hsame | ⟨act, hlife⟩ := lifecycle_of_transition hstep
  · rw [hsame, hr]
  · exact ht.orderly.result_of_transition hlife hr

/-- Where the end of the server is what the supervisor sees first, the program ends with its fault. -/
theorem Coherent.result?_of_see (hs : s.Coherent)
    (hrun : s.run? (.see .proxy :: events) = some s') {f : BindFault}
    (hfault : s'.lifecycle.firstFault? = some f) : s'.result? = some (.error (.listener f)) := by
  obtain ⟨next, hstep, hafter⟩ := exists_of_foldlM_cons hrun
  have hsee := transition_of_step? hstep
  have hnext := hs.of_transition hsee
  cases hsee with
  | see _ phase _ hsight =>
    obtain ⟨r, hproxy, rfl⟩ := Option.map_eq_some_iff.mp hsight
    have hresult := hnext.result_of_run? hafter (hs.proxy r hproxy)
    obtain ⟨rfl, -⟩ := (hnext.of_run? hafter).result_eq_error hfault hresult
    exact result?_of_run? hafter rfl

/-- A program that ends with the fault of a listener has seen the end of its server. -/
theorem see_of_result? {f : BindFault} (h : (start config).run? events = some s)
    (hresult : s.result? = some (.error (.listener f))) : .see .proxy ∈ events := by
  refine foldlM_induction h (motive := fun events t =>
    t.result? = some (.error (.listener f)) → .see .proxy ∈ events) nofun ?_ hresult
  intro before t e t' _ ih hstep ht'
  cases transition_of_step? hstep with
  | see p phase hphase hsight =>
    obtain rfl : phase = .ended (.error (.listener f)) := result?_eq_some_iff.mp ht'
    obtain ⟨rfl, -⟩ := proxy_of_sight? hsight
    exact List.mem_append_right before List.mem_cons_self
  | _ => exact List.mem_append_left _ (ih ht')

theorem signals_of_run? (h : s.run? events = some s') (hsilent : .signal ∉ events) :
    s'.signals = s.signals := by
  refine foldlM_invariant (p := fun t => t.signals = s.signals) h rfl ?_
  intro t e t' he ht hstep
  cases transition_of_step? hstep with
  | signal => exact absurd he hsilent
  | _ => exact ht

/-- A listener of a program stays bound. -/
theorem exists_bound_of_run? {kind : ListenerKind} (h : s.run? events = some s')
    (hbound : ∃ loop, s.lifecycle.listener kind = .bound loop) :
    ∃ loop, s'.lifecycle.listener kind = .bound loop := by
  refine foldlM_invariant
    (p := fun t => ∃ loop, t.lifecycle.listener kind = .bound loop) h hbound ?_
  rintro t e t' - ⟨loop, hloop⟩ hstep
  obtain hsame | ⟨act, hlife⟩ := lifecycle_of_transition (transition_of_step? hstep)
  · exact ⟨loop, by rw [hsame, hloop]⟩
  · have hchange := Lifecycle.listenerChange_of_transition hlife kind
    rw [hloop] at hchange
    obtain ⟨loop', hloop', -⟩ := hchange.of_bound
    exact ⟨loop', hloop'⟩

/-- A listener that was bound ends only after a signal. -/
theorem Coherent.signals_pos (hs : s.Coherent) {kind : ListenerKind} {loop : AcceptLoop}
    (hbound : s.lifecycle.listener kind = .bound loop)
    (hended : (s.lifecycle.listener kind).hasEnded = true) : 0 < s.signals := by
  have hstopped : loop.phase = .stopped := by simpa [hbound, Listener.hasEnded] using hended
  exact hs.signaled (hs.orderly.signaled kind loop hbound (.inr hstopped))

/-- While a listener is bound, no run without a signal ends the program with the fault of the
other one. -/
theorem Coherent.ne_bound_of_result? (hs : s.Coherent) (hsignals : s.signals = 0)
    (hrun : s.run? events = some s') (hsilent : .signal ∉ events) {f : BindFault}
    (hresult : s'.result? = some (.error (.listener f))) (kind : ListenerKind) (loop : AcceptLoop) :
    s.lifecycle.listener kind ≠ .bound loop := by
  intro hbound
  have hs' := hs.of_run? hrun
  obtain ⟨loop', hloop'⟩ := exists_bound_of_run? hrun ⟨loop, hbound⟩
  obtain ⟨-, hok⟩ | ⟨hended, -⟩ := hs'.orderly.returned _ (hs'.reported f hresult)
  · cases hok
  · have hpos := hs'.signals_pos hloop' (hended kind)
    rw [signals_of_run? hrun hsilent, hsignals] at hpos
    exact absurd hpos (Nat.lt_irrefl 0)

/-- Where both listeners have been tried and there was no signal, the program can end with the fault
before there is one just if neither of them could be bound. -/
theorem Coherent.exists_silent_iff (hs : s.Coherent) {f : BindFault}
    (hfault : s.lifecycle.firstFault? = some f) (hsignals : s.signals = 0)
    (hphase : s.supervisor.phase = .racing) (htried : ∀ kind, s.lifecycle.listener kind ≠ .unbound) :
    (∃ tail s', .signal ∉ tail ∧ s.run? tail = some s' ∧
      s'.result? = some (.error (.listener f))) ↔
    ∀ kind, s.lifecycle.listener kind = .failed := by
  constructor
  · rintro ⟨tail, s', hsilent, hrun, hresult⟩ kind
    cases hlistener : s.lifecycle.listener kind with
    | unbound => exact absurd hlistener (htried kind)
    | failed => rfl
    | bound loop =>
      exact absurd hlistener (hs.ne_bound_of_result? hsignals hrun hsilent hresult kind loop)
  · intro hfailed
    obtain ⟨tail, s', htail, hrun, hresult⟩ := hs.reports hfault
      (fun kind => by rw [hfailed kind]; rfl) hphase
    exact ⟨tail, s', fun hmem => htail _ hmem, hrun, hresult⟩

/-- Where a listener cannot be bound, the gate was open. The server returns the fault of the first such
listener and never anything else, once both have ended. A listener that was bound ends, and so the
server returns, only after a signal; but once both have ended, the return of the server and the
supervisor's look at it are all it takes for the program to end with that fault. Before there is a
signal it can so end just if neither listener could be bound. It ends with the fault just in the runs
in which the supervisor looks at the end of the server, as it does only while it has seen no other.
If it ends well all the same, then with a shutdown that was complete. -/
theorem failed_start {f : BindFault} (h : (start config).run? events = some s)
    (hfault : s.lifecycle.firstFault? = some f) :
    s.lifecycle.gate.isSet = true ∧
    (∀ r, s.lifecycle.result = some r →
      r = .error f ∧ ∀ kind, (s.lifecycle.listener kind).hasEnded = true) ∧
    (∀ kind loop, s.lifecycle.listener kind = .bound loop →
      (s.lifecycle.listener kind).hasEnded = true → 0 < s.signals) ∧
    ((∀ kind, (s.lifecycle.listener kind).hasEnded = true) → s.supervisor.phase = .racing →
      Reports f s) ∧
    (s.signals = 0 → s.supervisor.phase = .racing →
      (∀ kind, s.lifecycle.listener kind ≠ .unbound) →
      ((∃ tail s', .signal ∉ tail ∧ s.run? tail = some s' ∧
        s'.result? = some (.error (.listener f))) ↔
      ∀ kind, s.lifecycle.listener kind = .failed)) ∧
    (s.result? = some (.error (.listener f)) ↔ .see .proxy ∈ events) ∧
    (s.result? = some (.ok ()) →
      0 < s.signals ∧ s.lifecycle.isDrained = true ∧ s.supervisor.shutdown = some .completed) := by
  have hs := coherent_of_run? h
  refine ⟨?_, fun r => hs.result_eq_error hfault, fun kind loop => hs.signals_pos,
    hs.reports hfault, hs.exists_silent_iff hfault, ⟨see_of_result? h, fun hsee => ?_⟩,
    fun hok => ?_⟩
  · obtain ⟨kind, hkind, -⟩ := Option.map_eq_some_iff.mp hfault
    have hfailed : s.lifecycle.listener kind = .failed := by simpa using List.find?_some hkind
    exact hs.orderly.passed (.inr ⟨kind, by simp [hfailed]⟩)
  · obtain ⟨before, after, rfl⟩ := List.append_of_mem hsee
    rw [run?, List.foldlM_append] at h
    obtain ⟨t, ht, hafter⟩ := Option.bind_eq_some_iff.mp h
    exact (coherent_of_run? ht).result?_of_see hafter hfault
  · have hcompleted := hs.ended hok
    exact ⟨(hs.shutdown hcompleted).1, (hs.shutdown hcompleted).2, hcompleted⟩

/-- The fault of the plain listener. -/
def httpFault : BindFault where
  kind := .http
  address := { ip := .v4 0 0 0 0, port := 80 }

/-- A run in which neither listener can be bound. -/
def closedRun : List Event :=
  [.life .update, .life .poll, .life (.bind .https false), .life (.bind .http false)]

theorem failed_start_closedRun :
    ∃ s, (start {}).run? closedRun = some s ∧ s.lifecycle.firstFault? = some httpFault ∧
      s.signals = 0 ∧ Reports httpFault s := by
  obtain ⟨s, hs, hfault, hsignals, hphase, hhttp, hhttps⟩ : ∃ s, (start {}).run? closedRun = some s ∧
      s.lifecycle.firstFault? = some httpFault ∧ s.signals = 0 ∧ s.supervisor.phase = .racing ∧
      s.lifecycle.http = .failed ∧ s.lifecycle.https = .failed :=
    ⟨_, rfl, rfl, rfl, rfl, rfl, rfl⟩
  have hended (kind : ListenerKind) : (s.lifecycle.listener kind).hasEnded = true := by
    cases kind <;> simp [Lifecycle.listener, hhttp, hhttps, Listener.hasEnded]
  obtain ⟨-, -, -, hreports, -⟩ := failed_start hs hfault
  exact ⟨s, hs, hfault, hsignals, hreports hended hphase⟩

/-- A run in which only one listener can be bound, and the end of the shutdown is seen before that of
the server. -/
def overtakenRun : List Event :=
  [.life .update, .life .poll, .life (.bind .http false), .life (.bind .https true), .signal,
    .life (.accept .https (.poll .shutdown)), .life .finish, .proxyEnds,
    .shutdownEnds .completed, .see .shutdown]

/-- With one listener bound, the program goes on without the other one in every run without a signal,
and with a signal it may even end well. -/
theorem failed_start_overtakenRun :
    (∃ s, (start {}).run? (overtakenRun.take 4) = some s ∧
      s.lifecycle.firstFault? = some httpFault ∧
      ∀ tail s', .signal ∉ tail → s.run? tail = some s' →
        s'.result? ≠ some (.error (.listener httpFault))) ∧
    ∃ s, (start {}).run? overtakenRun = some s ∧ s.lifecycle.firstFault? = some httpFault ∧
      s.lifecycle.result = some (.error httpFault) ∧ s.result? = some (.ok ()) := by
  refine ⟨?_, _, rfl, rfl, rfl, rfl⟩
  obtain ⟨s, loop, hs, hfault, hsignals, hbound⟩ : ∃ s loop,
      (start {}).run? (overtakenRun.take 4) = some s ∧ s.lifecycle.firstFault? = some httpFault ∧
      s.signals = 0 ∧ s.lifecycle.listener .https = .bound loop :=
    ⟨_, _, rfl, rfl, rfl, rfl⟩
  refine ⟨s, hs, hfault, fun tail s' hsilent hrun hresult => ?_⟩
  exact (coherent_of_run? hs).ne_bound_of_result? hsignals hrun hsilent hresult .https loop hbound

end IngressProxy.RunningProgram

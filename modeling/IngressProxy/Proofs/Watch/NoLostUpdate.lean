import IngressProxy.Proofs.Cluster.Reconcile
import IngressProxy.Proofs.Cluster.Store
import IngressProxy.Proofs.Runs
import IngressProxy.Proofs.Watch.Transition
import Mathlib.Data.List.Forall2

namespace IngressProxy

namespace Watcher

/-- The payload that a reconciliation would read now. -/
def current (w : Watcher) : Payload := Payload.ofLister w.store.lister

/-- The payloads that were read, the one in hand last. -/
def payloads (w : Watcher) : List Payload := w.emitted.map Emission.payload ++ w.inHand.toList

/-- Whether a payload was read by the `n`-th act of a run, from the store as the acts before it left
it. -/
def ReadAt (window : Nat) (acts : List (Nat × Event)) (n : Nat) (payload : Payload) : Prop :=
  (acts[n]?).map Prod.snd = some .read ∧
    ∃ v, (start window).runLate? (acts.take n) = some v ∧ payload = v.current

namespace ReadAt

variable {window : Nat} {acts : List (Nat × Event)} {n : Nat} {payload : Payload}

theorem lt_length (h : ReadAt window acts n payload) : n < acts.length := by
  obtain ⟨act, hact, -⟩ := Option.map_eq_some_iff.mp h.1
  exact (List.getElem?_eq_some_iff.mp hact).1

/-- What was read stays so while a run goes on. -/
theorem append (h : ReadAt window acts n payload) (more : List (Nat × Event)) :
    ReadAt window (acts ++ more) n payload := by
  have hn := h.lt_length
  obtain ⟨hread, v, hv, hpayload⟩ := h
  refine ⟨?_, v, ?_, hpayload⟩
  · rw [List.getElem?_append_left hn, hread]
  · rw [List.take_append_of_le_length (Nat.le_of_lt hn), hv]

theorem last {v : Watcher} (hv : (start window).runLate? acts = some v) (ms : Nat) :
    ReadAt window (acts ++ [(ms, .read)]) acts.length v.current := by
  refine ⟨?_, v, ?_, rfl⟩
  · rw [List.getElem?_concat_length]
    rfl
  · rw [List.take_left, hv]

end ReadAt

/-- The payloads of a run were read by acts of it, one after the other. -/
def IsInOrder (window : Nat) (acts : List (Nat × Event)) (w : Watcher) : Prop :=
  ∃ reads : List Nat, reads.Pairwise (· < ·) ∧
    List.Forall₂ (ReadAt window acts) reads w.payloads

theorem isInOrder_concat {window : Nat} {acts : List (Nat × Event)} {v v' : Watcher} {ms : Nat}
    {e : Event} (hv : (start window).runLate? acts = some v) (h : IsInOrder window acts v)
    (hstep : Transition (v.delay ms) e v') : IsInOrder window (acts ++ [(ms, e)]) v' := by
  obtain ⟨reads, hsorted, hreads⟩ := h
  have hmore : List.Forall₂ (ReadAt window (acts ++ [(ms, e)])) reads v.payloads :=
    hreads.imp fun n payload hn => hn.append _
  -- Only reading adds a payload; handing on moves the one in hand to the end of the others.
  cases hstep with
  | write op => exact ⟨reads, hsorted, hmore⟩
  | announce kind => exact ⟨reads, hsorted, hmore⟩
  | wake => exact ⟨reads, hsorted, hmore⟩
  | expire deadline => exact ⟨reads, hsorted, hmore⟩
  | elapse ms => exact ⟨reads, hsorted, hmore⟩
  | emit payload hphase hhand =>
    have hhand' : v.inHand = some payload := hhand
    refine ⟨reads, hsorted, ?_⟩
    simpa [payloads, hhand', delay] using hmore
  | read hphase hhand =>
    have hhand' : v.inHand = none := hhand
    have hbefore : ∀ n ∈ reads, n < acts.length :=
      ((List.forall₂_and_left _ _).mp (hreads.imp fun n payload hn => ⟨hn.lt_length, hn⟩)).1
    refine ⟨reads ++ [acts.length], ?_, ?_⟩
    · refine List.pairwise_append.mpr ⟨hsorted, List.pairwise_singleton _ _, fun n hn m hm => ?_⟩
      obtain rfl := List.mem_singleton.mp hm
      exact hbefore n hn
    · have hlast : List.Forall₂ (ReadAt window (acts ++ [(ms, .read)])) [acts.length] [v.current] :=
        .cons (ReadAt.last hv ms) .nil
      have hall := List.rel_append hmore hlast
      simpa [payloads, hhand', delay, current] using hall

/-- Whether the debouncer has a payload in hand only while it works. -/
def HoldsAtWork (w : Watcher) : Prop := w.debouncer.phase ≠ .working → w.inHand = none

theorem holdsAtWork_of_transition {w w' : Watcher} {e : Event} (h : HoldsAtWork w)
    (hstep : Transition w e w') : HoldsAtWork w' := by
  cases hstep with
  | write op => exact h
  | announce kind => exact h
  | wake hphase => exact fun _ => h hphase
  | expire deadline => exact fun hphase => absurd rfl hphase
  | read hphase => exact fun hother => absurd hphase hother
  | emit payload => exact fun _ => rfl
  | elapse ms => exact h

/-- Whether the state of the store was handed on, or is on its way: it is still to be notified
about, a notification is pending, or the debouncer is going to read the store or has read it as it
is. -/
def IsCovered (w : Watcher) : Prop :=
  w.unannounced ≠ [] ∨ w.debouncer.trigger.pending = true ∨
    match w.debouncer.phase with
    | .idle => (w.emitted.getLast?).map Emission.payload = some w.current
    | .armed _ => True
    | .working => ∀ payload ∈ w.inHand, payload = w.current

/-- A write is still to be notified about, so it covers the store, whatever was known before. -/
theorem isCovered_of_write {w w' : Watcher} {op : StoreOp} (hstep : Transition w (.write op) w') :
    IsCovered w' := by
  cases hstep with
  | write op => exact .inl (List.cons_ne_nil _ _)

/-- The store stays covered. The obligation passes on from the task that wrote to the notification,
to the window, to the reading, and to what is handed on. -/
theorem isCovered_of_transition {w w' : Watcher} {e : Event} (hhold : HoldsAtWork w)
    (h : IsCovered w) (hstep : Transition w e w') : IsCovered w' := by
  cases hstep with
  | write op hkind => exact isCovered_of_write (.write op hkind)
  | announce kind => exact .inr (.inl rfl)
  | wake => exact .inr (.inr trivial)
  | expire deadline hphase =>
    have hnone : w.inHand = none := hhold (by rw [hphase]; exact nofun)
    refine .inr (.inr ?_)
    simp [hnone]
  | read hphase =>
    refine .inr (.inr ?_)
    simp [hphase, current]
  | emit payload hphase hhand =>
    -- What is handed on may be older than the store, but then a newer write is under way.
    obtain h | h | h := h
    · exact .inl h
    · exact .inr (.inl h)
    · rw [hphase] at h
      refine .inr (.inr ?_)
      simp [h payload hhand, current]
  | elapse ms => exact h

/-- A run in which something was written leaves the store covered. -/
theorem isCovered_of_runLate? {window : Nat} {acts : List (Nat × Event)} {w : Watcher}
    (h : (start window).runLate? acts = some w) :
    HoldsAtWork w ∧ ((∃ ms op, (ms, .write op) ∈ acts) → IsCovered w) := by
  refine foldlM_induction h (motive := fun acts w =>
    HoldsAtWork w ∧ ((∃ ms op, (ms, .write op) ∈ acts) → IsCovered w)) ?_ ?_
  · exact ⟨fun _ => rfl, fun ⟨ms, op, hmem⟩ => absurd hmem List.not_mem_nil⟩
  · intro acts v ⟨ms, e⟩ v' _ ⟨hhold, hcovered⟩ hstep
    have hstep := transition_of_step? hstep
    refine ⟨holdsAtWork_of_transition (w := v.delay ms) hhold hstep, fun ⟨ms', op, hmem⟩ => ?_⟩
    obtain hmem | hlast := List.mem_append.mp hmem
    · exact isCovered_of_transition (w := v.delay ms) hhold (hcovered ⟨ms', op, hmem⟩) hstep
    · obtain ⟨rfl, rfl⟩ : ms' = ms ∧ .write op = e := by simpa using hlast
      exact isCovered_of_write hstep

theorem isInOrder_of_runLate? {window : Nat} {acts : List (Nat × Event)} {w : Watcher}
    (h : (start window).runLate? acts = some w) : IsInOrder window acts w :=
  foldlM_induction h (motive := IsInOrder window) ⟨[], .nil, .nil⟩
    fun _ _ _ _ hv hinv hstep => isInOrder_concat hv hinv (transition_of_step? hstep)

/-- What an act writes into the store. -/
def written? : Event → Option StoreOp
  | .write op => some op
  | _ => none

theorem store_of_runLate? {window : Nat} {acts : List (Nat × Event)} {w : Watcher}
    (h : (start window).runLate? acts = some w) :
    w.store = ({} : Store).runAll (acts.filterMap fun act => written? act.2) := by
  refine foldlM_induction h (motive := fun acts w =>
    w.store = ({} : Store).runAll (acts.filterMap fun act => written? act.2)) rfl ?_
  intro acts v ⟨ms, e⟩ v' _ hv hstep
  have hmore : ({} : Store).runAll ((acts ++ [(ms, e)]).filterMap fun act => written? act.2) =
      v.store.runAll (written? e).toList := by
    rw [hv, List.filterMap_append]
    refine List.foldl_append.trans ?_
    cases e <;> rfl
  rw [hmore]
  cases transition_of_step? hstep <;> rfl

/-- Whatever the run: the store is what the acts of the run have written, one after the other. What
was handed on was read by acts of the run, one after the other too, each from the store as it was
then; and if the debouncer is idle, nothing is pending or still to be notified about, and something
was written, then the newest payload is that of the store as it is. -/
theorem no_update_lost {window : Nat} {acts : List (Nat × Event)} {w : Watcher}
    (h : (start window).runLate? acts = some w) :
    w.store = ({} : Store).runAll (acts.filterMap fun act => written? act.2) ∧
    (∃ reads : List Nat, reads.Pairwise (· < ·) ∧
      List.Forall₂ (fun n e => (acts[n]?).map Prod.snd = some .read ∧
        ∃ v, (start window).runLate? (acts.take n) = some v ∧
          e.payload = Payload.ofLister v.store.lister) reads w.emitted) ∧
    (w.debouncer.phase = .idle → w.debouncer.trigger.pending = false → w.unannounced = [] →
      (∃ ms op, (ms, .write op) ∈ acts) →
      ∃ e, w.emitted.getLast? = some e ∧ e.payload = Payload.ofLister w.store.lister) := by
  refine ⟨store_of_runLate? h, ?_, ?_⟩
  · obtain ⟨reads, hsorted, hreads⟩ := isInOrder_of_runLate? h
    have hemitted := List.forall₂_take_append _ _ _ hreads
    refine ⟨_, hsorted.take, List.forall₂_map_right_iff.mp hemitted⟩
  · intro hidle hpending hannounced hwritten
    obtain h | h | h := (isCovered_of_runLate? h).2 hwritten
    · exact absurd hannounced h
    · rw [hpending] at h
      cases h
    · rw [hidle] at h
      exact Option.map_eq_some_iff.mp h

def teaIn (ns : String) : Ingress where
  metadata := { ns := some ns, name := some "tea" }

/-- A run in which an ingress is written while an older state of the store is in hand. -/
def overtakenRun : List (Nat × Event) :=
  let round := [(0, .announce .ingress), (0, .wake), (1000, .expire), (0, .read)]
  [(0, .write (.ingress (.apply (teaIn "shop"))))] ++ round ++
    [(5, .write (.ingress (.apply (teaIn "cafe")))), (0, .emit)] ++ round ++ [(0, .emit)]

theorem no_update_lost_overtakenRun :
    ∃ w first last, (start 1000).runLate? overtakenRun = some w ∧
      w.emitted.map Emission.payload = [first, last] ∧ first.ingresses.length = 1 ∧
      last.ingresses.length = 2 ∧ last = Payload.ofLister w.store.lister ∧
      w.store = ({} : Store).runAll
        [.ingress (.apply (teaIn "shop")), .ingress (.apply (teaIn "cafe"))] := by
  have hlength (s : Store) : (Payload.ofLister s.lister).ingresses.length = s.ingresses.size := by
    rw [Reconciliation.ingresses_ofLister, List.length_map, s.size_ingresses]
    rfl
  obtain ⟨w, hw, hidle, hpending, hannounced, hemitted⟩ :
      ∃ w, (start 1000).runLate? overtakenRun = some w ∧ w.debouncer.phase = .idle ∧
        w.debouncer.trigger.pending = false ∧ w.unannounced = [] ∧
        w.emitted.map Emission.payload =
          [Payload.ofLister (({} : Store).runAll [.ingress (.apply (teaIn "shop"))]).lister,
            Payload.ofLister w.store.lister] :=
    ⟨_, rfl, rfl, rfl, rfl, rfl⟩
  obtain ⟨hstore, -, hlast⟩ := no_update_lost hw
  obtain ⟨e, he, hpayload⟩ := hlast hidle hpending hannounced ⟨0, _, List.mem_cons_self⟩
  rw [← hpayload] at hemitted
  refine ⟨w, _, e.payload, hw, hemitted, ?_, ?_, hpayload, hstore⟩
  · rw [hlength]
    rfl
  · rw [hpayload, hlength, hstore]
    rfl

end Watcher

end IngressProxy

import IngressProxy.Proofs.Watch.Debounce
import IngressProxy.Watch.Watcher

namespace IngressProxy

namespace Watcher

/-- What an act does, and where it is possible. The end of a window leaves a pending notification as
it is, since a wait that is dropped gives back what it was about to take. -/
inductive Transition (w : Watcher) : Event → Watcher → Prop where
  | write (op : StoreOp) (hkind : op.kind ∉ w.unannounced) :
    Transition w (.write op)
      { w with store := w.store.run op, unannounced := op.kind :: w.unannounced }
  | announce (kind : Kind) (hkind : kind ∈ w.unannounced) :
    Transition w (.announce kind)
      { w with
        unannounced := w.unannounced.filter (· ≠ kind)
        debouncer.trigger.pending := true }
  | wake (hphase : w.debouncer.phase ≠ .working) (hpending : w.debouncer.trigger.pending = true) :
    Transition w .wake
      { w with
        debouncer.trigger.pending := false
        debouncer.phase := .armed (w.debouncer.now + w.debouncer.window) }
  | expire (deadline : Nat) (hphase : w.debouncer.phase = .armed deadline)
      (hdue : deadline ≤ w.debouncer.now) :
    Transition w .expire { w with debouncer.phase := .working }
  | read (hphase : w.debouncer.phase = .working) (hhand : w.inHand = none) :
    Transition w .read { w with inHand := some (Payload.ofLister w.store.lister) }
  | emit (payload : Payload) (hphase : w.debouncer.phase = .working)
      (hhand : w.inHand = some payload) :
    Transition w .emit
      { w with
        inHand := none
        emitted := w.emitted ++ [{ time := w.debouncer.now, payload }]
        debouncer.phase := .idle }
  | elapse (ms : Nat)
      (hfree : ms = 0 ∨ w.debouncer.isDue = false ∧
        w.debouncer.mayReach (w.debouncer.now + ms) = true) :
    Transition w (.elapse ms) { w with debouncer.now := w.debouncer.now + ms }

theorem transition_of_debounce? {w w' : Watcher} {e : Debouncer.Event}
    (h : w.debounce? e = some w') :
    ∃ d, Debouncer.Transition w.debouncer e d ∧ w' = { w with debouncer := d } := by
  obtain ⟨d, hd, rfl⟩ := Option.map_eq_some_iff.mp h
  exact ⟨d, Debouncer.transition_of_step? hd, rfl⟩

/-- Every act is a transition. -/
theorem transition_of_step? {w w' : Watcher} {e : Event} (h : w.step? e = some w') :
    Transition w e w' := by
  cases e with
  | write op =>
    by_cases hkind : op.kind ∈ w.unannounced
    · simp [step?, hkind] at h
    · obtain rfl : _ = w' := by simpa [step?, hkind] using h
      exact .write op hkind
  | announce kind =>
    by_cases hkind : kind ∈ w.unannounced
    · rw [step?, if_pos hkind] at h
      obtain ⟨d, ⟨⟩, rfl⟩ := transition_of_debounce? h
      exact .announce kind hkind
    · simp [step?, hkind] at h
  | wake =>
    obtain ⟨d, hd, rfl⟩ := transition_of_debounce? h
    cases hd with
    | wake hphase hpending => exact .wake hphase hpending
  | expire =>
    obtain ⟨d, hd, rfl⟩ := transition_of_debounce? h
    cases hd with
    | expire deadline hphase hdue => exact .expire deadline hphase hdue
  | read =>
    cases hphase : w.debouncer.phase with
    | idle => simp [step?, hphase] at h
    | armed deadline => simp [step?, hphase] at h
    | working =>
      cases hhand : w.inHand with
      | some payload => simp [step?, hphase, hhand] at h
      | none =>
        obtain rfl : _ = w' := by simpa [step?, hphase, hhand] using h
        exact .read hphase hhand
  | emit =>
    cases hhand : w.inHand with
    | none => simp [step?, hhand] at h
    | some payload =>
      simp only [step?, hhand] at h
      obtain ⟨d, hd, rfl⟩ := transition_of_debounce? h
      cases hd with
      | finish hphase => exact .emit payload hphase hhand
  | elapse ms =>
    obtain ⟨d, hd, rfl⟩ := transition_of_debounce? h
    cases hd with
    | elapse ms hfree => exact .elapse ms hfree

/-- Lets the clock go on, whatever there is to do, as it does while whoever is to act is not given the
time to. -/
def delay (w : Watcher) (ms : Nat) : Watcher :=
  { w with debouncer.now := w.debouncer.now + ms }

/-- An act after a delay, where it is possible. -/
def stepLate? (w : Watcher) (act : Nat × Event) : Option Watcher := (w.delay act.1).step? act.2

/-- Acts in order, each after a delay, if each is possible. -/
def runLate? (w : Watcher) (acts : List (Nat × Event)) : Option Watcher := acts.foldlM stepLate? w

end Watcher

end IngressProxy

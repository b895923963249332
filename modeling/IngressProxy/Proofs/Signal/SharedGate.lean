import IngressProxy.Signal.SharedGate
import Mathlib.Data.List.Basic

namespace IngressProxy

theorem mem_or_of_mem_modify {α : Type} {l : List α} {i : Nat} {f : α → α} {x : α}
    (h : x ∈ l.modify i f) : x ∈ l ∨ ∃ y ∈ l, x = f y := by
  obtain ⟨j, hj⟩ := List.mem_iff_getElem?.mp h
  rw [List.getElem?_modify] at hj
  obtain ⟨y, hy, hxy⟩ := Option.map_eq_some_iff.mp hj
  have hmem := List.mem_of_getElem? hy
  by_cases hij : i = j
  · exact .inr ⟨y, hmem, by simpa [hij] using hxy.symm⟩
  · obtain rfl : y = x := by simpa [hij] using hxy
    exact .inl hmem

namespace Waiter

theorem view_notify (w : Waiter) : w.notify.view = Gate.wake w.view := by
  cases w with
  | created => rfl
  | parked receiver woken => cases woken <;> rfl
  | finished r => rfl

theorem view_wake (w : Waiter) : w.wake.view = Gate.wake w.view := by
  cases w with
  | created => rfl
  | parked receiver woken => cases woken <;> rfl
  | finished r => rfl

theorem parked_of_notify {w : Waiter} {receiver : Receiver} {woken : Bool}
    (h : w.notify = .parked receiver woken) :
    woken = true ∧ ∃ before earlier, w = .parked before earlier ∧
      receiver = { before with notified := true } := by
  cases w with
  | created => cases h
  | finished r => cases h
  | parked before earlier =>
    obtain ⟨rfl, rfl⟩ : _ = receiver ∧ true = woken := by simpa [notify] using h
    exact ⟨rfl, before, earlier, rfl, rfl⟩

theorem parked_of_wake {w : Waiter} {receiver : Receiver} {woken : Bool}
    (h : w.wake = .parked receiver woken) :
    woken = true ∧ ∃ earlier, w = .parked receiver earlier := by
  cases w with
  | created => cases h
  | finished r => cases h
  | parked before earlier =>
    obtain ⟨rfl, rfl⟩ : before = receiver ∧ true = woken := by simpa [wake] using h
    exact ⟨rfl, earlier, rfl⟩

end Waiter

namespace SharedGate

open Waiter

variable {g : SharedGate}

theorem set_of_closed (hclosed : g.isSet = false) :
    g.set = { g with
      channel := { value := true, version := g.channel.version + 1 }
      waiters := g.waiters.map notify } := by
  obtain ⟨⟨value, version⟩, draining, waiters⟩ := g
  obtain rfl : value = false := hclosed
  rfl

theorem set_of_open (hopen : g.isSet = true) : g.set = g := by
  obtain ⟨⟨value, version⟩, draining, waiters⟩ := g
  obtain rfl : value = true := hopen
  rfl

/-- What holds of a gate that was closed at first. Its channel was modified once if it is open, and else
not at all. Nobody has subscribed after that: whoever is parked was notified if the gate is open, and
woken if it is open or shutdown was signaled. -/
structure Consistent (g : SharedGate) : Prop where
  version : g.channel.version = g.isSet.toNat
  parked : ∀ receiver woken, .parked receiver woken ∈ g.waiters →
    receiver = { seen := 0, notified := g.isSet } ∧ woken = (g.isSet || g.draining)

/-- A poll finds what there is to be found: whoever was woken at an open gate was notified too, and has
not seen the modification that opened it. -/
theorem Consistent.poll_eq (hg : g.Consistent) {w : Waiter} (hw : w ∈ g.waiters)
    (hopen : w.isFinished = false) :
    g.poll w =
      if g.isSet then .finished .opened
      else if g.draining then .finished .cancelled
      else .parked { seen := 0 } false := by
  have hversion := hg.version
  cases w with
  | finished r => cases hopen
  | created =>
    cases hset : g.isSet with
    | true =>
      have hvalue : g.channel.value = true := hset
      simp [poll, Channel.look, hvalue, resume]
    | false =>
      have hvalue : g.channel.value = false := hset
      rw [hset] at hversion
      simp [poll, Channel.look, hvalue, resume, hversion]
  | parked receiver woken =>
    obtain ⟨rfl, -⟩ := hg.parked receiver woken hw
    cases hset : g.isSet with
    | true =>
      have hvalue : g.channel.value = true := hset
      rw [hset] at hversion
      simp [poll, Channel.poll, Channel.look, hvalue, hversion, resume]
    | false => simp [poll, Channel.poll, resume]

theorem Consistent.parked_of_poll (hg : g.Consistent) {w : Waiter} (hw : w ∈ g.waiters)
    {receiver : Receiver} {woken : Bool} (h : g.poll w = .parked receiver woken) :
    receiver = { seen := 0, notified := g.isSet } ∧ woken = (g.isSet || g.draining) := by
  cases hopen : w.isFinished with
  | true =>
    cases w with
    | finished r => cases h
    | created | parked => cases hopen
  | false =>
    rw [hg.poll_eq hw hopen] at h
    cases hset : g.isSet with
    | true => simp [hset] at h
    | false =>
      cases hdraining : g.draining with
      | true => simp [hset, hdraining] at h
      | false =>
        obtain ⟨rfl, rfl⟩ : { seen := 0 } = receiver ∧ false = woken := by
          simpa [hset, hdraining] using h
        exact ⟨rfl, rfl⟩

theorem Consistent.set (hg : g.Consistent) : g.set.Consistent := by
  cases hset : g.isSet with
  | true => rwa [set_of_open hset]
  | false =>
    rw [set_of_closed hset]
    refine ⟨?_, fun receiver woken hmem => ?_⟩
    · rw [hg.version, hset]
      rfl
    · obtain ⟨w, hw, hnotify⟩ := List.mem_map.mp hmem
      obtain ⟨rfl, before, earlier, rfl, rfl⟩ := parked_of_notify hnotify
      obtain ⟨rfl, -⟩ := hg.parked before earlier hw
      exact ⟨rfl, rfl⟩

theorem Consistent.drain (hg : g.Consistent) : (g.step .drain).Consistent := by
  cases hdraining : g.draining with
  | true => simpa [step, hdraining] using hg
  | false =>
    have hstep : g.step .drain =
        { g with draining := true, waiters := g.waiters.map Waiter.wake } := by
      simp [step, hdraining]
    rw [hstep]
    refine ⟨hg.version, fun receiver woken hmem => ?_⟩
    obtain ⟨w, hw, hwake⟩ := List.mem_map.mp hmem
    obtain ⟨rfl, earlier, rfl⟩ := parked_of_wake hwake
    exact ⟨(hg.parked receiver earlier hw).1, (Bool.or_true _).symm⟩

theorem Consistent.wait (hg : g.Consistent) : (g.step .wait).Consistent := by
  refine ⟨hg.version, fun receiver woken hmem => ?_⟩
  obtain hold | hnew := List.mem_append.mp hmem
  · exact hg.parked receiver woken hold
  · cases List.mem_singleton.mp hnew

theorem Consistent.poll (hg : g.Consistent) (i : Nat) : (g.step (.poll i)).Consistent := by
  refine ⟨hg.version, fun receiver woken hmem => ?_⟩
  obtain hold | ⟨w, hw, hpoll⟩ := mem_or_of_mem_modify hmem
  · exact hg.parked receiver woken hold
  · exact hg.parked_of_poll hw hpoll.symm

theorem consistent_step (hg : g.Consistent) (e : Gate.Event) : (g.step e).Consistent := by
  cases e with
  | set => exact hg.set
  | drain => exact hg.drain
  | wait => exact hg.wait
  | poll i => exact hg.poll i

theorem consistent_run (hg : g.Consistent) (events : List Gate.Event) :
    (g.run events).Consistent := by
  induction events generalizing g with
  | nil => exact hg
  | cons e events ih => exact ih (consistent_step hg e)

theorem consistent_start : ({} : SharedGate).Consistent := ⟨rfl, nofun⟩

theorem view_set (g : SharedGate) : g.set.view = g.view.step .set := by
  cases hset : g.isSet with
  | true =>
    have hview : g.view.step .set = g.view := if_pos hset
    rw [set_of_open hset, hview]
  | false =>
    have hview : g.view.step .set =
        { g.view with isSet := true, waits := g.view.waits.map Gate.wake } := by
      simp [Gate.step, view, hset]
    rw [set_of_closed hset, hview]
    simp only [view, List.map_map]
    congr 1
    exact List.map_congr_left fun w _ => w.view_notify

theorem view_drain (g : SharedGate) : (g.step .drain).view = g.view.step .drain := by
  cases hdraining : g.draining with
  | true => simp [step, Gate.step, view, hdraining]
  | false =>
    have hview : g.view.step .drain =
        { g.view with draining := true, waits := g.view.waits.map Gate.wake } := by
      simp [Gate.step, view, hdraining]
    have hstep : g.step .drain =
        { g with draining := true, waiters := g.waiters.map Waiter.wake } := by
      simp [step, hdraining]
    rw [hstep, hview]
    simp only [view, List.map_map]
    congr 1
    exact List.map_congr_left fun w _ => w.view_wake

theorem Consistent.view_poll (hg : g.Consistent) {w : Waiter} (hw : w ∈ g.waiters) :
    (g.poll w).view = g.view.poll w.view := by
  cases hopen : w.isFinished with
  | true =>
    cases w with
    | finished r => rfl
    | created | parked => cases hopen
  | false =>
    -- Due or parked, a wait that has not finished is polled alike.
    have hpoll : g.view.poll w.view = g.view.poll .due := by
      cases w with
      | finished r => cases hopen
      | created => rfl
      | parked receiver woken => cases woken <;> rfl
    rw [hpoll, hg.poll_eq hw hopen]
    cases hset : g.isSet <;> cases hdraining : g.draining <;>
      simp [Gate.poll, Gate.outcome, SharedGate.view, Waiter.view, hset, hdraining]

/-- For those who only wait, the channel behind a gate does not show. -/
theorem Consistent.view_step (hg : g.Consistent) (e : Gate.Event) :
    (g.step e).view = g.view.step e := by
  cases e with
  | set => exact view_set g
  | drain => exact view_drain g
  | wait => simp [step, Gate.step, view, isSet, Waiter.view]
  | poll i =>
    have hwaits : (g.waiters.modify i g.poll).map Waiter.view =
        (g.waiters.map Waiter.view).modify i g.view.poll := by
      apply List.ext_getElem?
      intro j
      simp only [List.getElem?_map, List.getElem?_modify]
      cases hw : g.waiters[j]? with
      | none => rfl
      | some w =>
        have hpoll := hg.view_poll (List.mem_of_getElem? hw)
        by_cases hij : i = j <;> simp [hij, hpoll]
    simp only [step, Gate.step, view] at hwaits ⊢
    rw [hwaits]
    rfl

theorem view_run (hg : g.Consistent) (events : List Gate.Event) :
    (g.run events).view = g.view.run events := by
  induction events generalizing g with
  | nil => rfl
  | cons e events ih =>
    have hrun : (g.run (e :: events)).view = (g.step e).view.run events := ih (consistent_step hg e)
    rw [hrun, hg.view_step]
    rfl

theorem isSet_step (g : SharedGate) (e : Gate.Event) :
    (g.step e).isSet = true ↔ g.isSet = true ∨ e = .set := by
  cases e with
  | set => simp [step, set, Channel.sendIfModified, isSet]
  | drain =>
    cases hdraining : g.draining <;> simp [step, isSet, hdraining]
  | wait | poll => simp [step, isSet]

theorem isSet_run (g : SharedGate) (events : List Gate.Event) :
    (g.run events).isSet = true ↔ g.isSet = true ∨ .set ∈ events := by
  induction events generalizing g with
  | nil => simp [run]
  | cons e events ih =>
    have hrun : (g.run (e :: events)).isSet = true ↔
        (g.step e).isSet = true ∨ .set ∈ events := ih (g.step e)
    rw [hrun, isSet_step, or_assoc, List.mem_cons, eq_comm (a := e)]

theorem draining_step (g : SharedGate) (e : Gate.Event) :
    (g.step e).draining = true ↔ g.draining = true ∨ e = .drain := by
  cases e with
  | set => simp [step, set]
  | drain => cases hdraining : g.draining <;> simp [step, hdraining]
  | wait | poll => simp [step]

theorem draining_run (g : SharedGate) (events : List Gate.Event) :
    (g.run events).draining = true ↔ g.draining = true ∨ .drain ∈ events := by
  induction events generalizing g with
  | nil => simp [run]
  | cons e events ih =>
    have hrun : (g.run (e :: events)).draining = true ↔
        (g.step e).draining = true ∨ .drain ∈ events := ih (g.step e)
    rw [hrun, draining_step, or_assoc, List.mem_cons, eq_comm (a := e)]

/-- An open gate may as well not be opened again. -/
theorem run_filter (hopen : g.isSet = true) (events : List Gate.Event) :
    g.run events = g.run (events.filter (· ≠ .set)) := by
  induction events generalizing g with
  | nil => rfl
  | cons e events ih =>
    have hstep := ih ((isSet_step g e).mpr (.inl hopen))
    by_cases he : e = .set
    · subst he
      rw [List.filter_cons_of_neg (by simp)]
      have hset : g.step .set = g := set_of_open hopen
      rw [hset] at hstep
      exact (congrArg (run · events) hset).trans hstep
    · rw [List.filter_cons_of_pos (by simpa using he)]
      exact hstep

theorem finished_step {i : Nat} {r : WaitResult} (hw : g.waiters[i]? = some (.finished r))
    (e : Gate.Event) : (g.step e).waiters[i]? = some (.finished r) := by
  have hlt := (List.getElem?_eq_some_iff.mp hw).1
  cases e with
  | set =>
    cases hset : g.isSet with
    | true => simpa [step, set_of_open hset] using hw
    | false => simp [step, set_of_closed hset, hw, notify]
  | drain => cases hdraining : g.draining <;> simp [step, hdraining, hw, wake]
  | wait => simp [step, List.getElem?_append_left hlt, hw]
  | poll j => by_cases hji : j = i <;> simp [step, hw, hji, poll]

theorem finished_run {i : Nat} {r : WaitResult} (hw : g.waiters[i]? = some (.finished r))
    (events : List Gate.Event) : (g.run events).waiters[i]? = some (.finished r) := by
  induction events generalizing g with
  | nil => exact hw
  | cons e events ih => exact ih (finished_step hw e)

/-- Whoever waits at an open gate, or while shutdown is signaled, is about to be polled. -/
theorem Consistent.isWoken (hg : g.Consistent) (hready : g.isSet = true ∨ g.draining = true)
    {w : Waiter} (hw : w ∈ g.waiters) (hopen : w.isFinished = false) : w.isWoken = true := by
  cases w with
  | created => rfl
  | finished r => cases hopen
  | parked receiver woken =>
    obtain ⟨-, rfl⟩ := hg.parked receiver woken hw
    obtain hset | hdraining := hready
    · simp [Waiter.isWoken, hset]
    · simp [Waiter.isWoken, hdraining]

/-- However the opening of a gate, waits and the signal to shut down interleave: the gate is open once it
was opened, and to open it again changes nothing. A poll finds the gate open, or else shutdown, or leaves
the waiter parked; what it has found stays. Whoever waits while there is something to be found is about
to be polled. -/
theorem no_wakeup_lost (events : List Gate.Event) :
    ((run {} events).isSet = true ↔ .set ∈ events) ∧
    ((run {} events).draining = true ↔ .drain ∈ events) ∧
    (∀ more, (run {} events).isSet = true →
      ((run {} events).run more).isSet = true ∧
      (run {} events).run more = (run {} events).run (more.filter (· ≠ .set))) ∧
    (∀ (i : Nat) w, (run {} events).waiters[i]? = some w → w.isFinished = false →
      ∃ w', (run {} events).step (.poll i) =
          { run {} events with waiters := (run {} events).waiters.set i w' } ∧
        (w' = .finished .opened ↔ (run {} events).isSet = true) ∧
        (w' = .finished .cancelled ↔
          (run {} events).isSet = false ∧ (run {} events).draining = true) ∧
        (w'.isFinished = false ↔
          (run {} events).isSet = false ∧ (run {} events).draining = false)) ∧
    (∀ (i : Nat) r more, (run {} events).waiters[i]? = some (.finished r) →
      ((run {} events).run more).waiters[i]? = some (.finished r)) ∧
    ((run {} events).isSet = true ∨ (run {} events).draining = true →
      ∀ w ∈ (run {} events).waiters, w.isFinished = false → w.isWoken = true) ∧
    (run {} events).view = Gate.run {} events := by
  have hisSet := isSet_run {} events
  have hdraining := draining_run {} events
  have hg : (run {} events).Consistent := consistent_run consistent_start events
  have hview : (run {} events).view = Gate.run {} events := view_run consistent_start events
  generalize run {} events = g at hisSet hdraining hg hview ⊢
  refine ⟨by simpa [isSet] using hisSet, by simpa using hdraining, fun more hset => ?_,
    fun i w hw hopen => ?_, fun i r more hw => finished_run hw more,
    fun hready w => hg.isWoken hready, hview⟩
  · exact ⟨(isSet_run g more).mpr (.inl hset), run_filter hset more⟩
  · have hpoll := hg.poll_eq (List.mem_of_getElem? hw) hopen
    refine ⟨g.poll w, ?_, ?_⟩
    · have hmodify : g.waiters.modify i g.poll = g.waiters.set i (g.poll w) := by
        simp [List.modify_eq_set_getElem?, hw]
      simp [step, hmodify]
    · rw [hpoll]
      cases hset : g.isSet <;> cases hdraining : g.draining <;> simp [isFinished]

-- Two waits that shutdown has woken: one is polled at once, the other after the gate was opened.
example : (run {} [.wait, .wait, .poll 0, .poll 1, .drain, .poll 0, .set, .poll 1]).waiters =
    [.finished .cancelled, .finished .opened] := by decide

end SharedGate

end IngressProxy

import IngressProxy.Watch.Debounce
import Mathlib.Data.Nat.Basic
import Mathlib.Data.Nat.Init
import Mathlib.Order.Basic
import Mathlib.Tactic.Push

namespace IngressProxy

namespace Debouncer

variable {d d' : Debouncer} {e : Event}

/-- Time passes as far as nothing is due on the way, and changes the clock only. -/
theorem eq_of_elapse {ms : Nat} (h : d.step? (.elapse ms) = some d') :
    (ms = 0 ∨ d.isDue = false ∧ d.mayReach (d.now + ms) = true) ∧
      d' = { d with now := d.now + ms } := by
  by_cases hms : ms = 0
  · subst hms
    obtain rfl : d = d' := Option.some.inj h
    exact ⟨.inl rfl, rfl⟩
  · cases hdue : d.isDue with
    | true => simp [step?, hms, hdue] at h
    | false =>
      cases hreach : d.mayReach (d.now + ms) with
      | false => simp [step?, hms, hdue, hreach] at h
      | true =>
        obtain rfl : _ = d' := by simpa [step?, hms, hdue, hreach] using h
        exact ⟨.inr ⟨rfl, rfl⟩, rfl⟩

/-- What an event does, and where it is possible. The end of a window leaves a pending notification as
it is, since a wait that is dropped gives back what it was about to take. -/
inductive Transition (d : Debouncer) : Event → Debouncer → Prop where
  | notify : Transition d .notify { d with trigger.pending := true }
  | wake (hphase : d.phase ≠ .working) (hpending : d.trigger.pending = true) :
    Transition d .wake
      { d with trigger.pending := false, phase := .armed (d.now + d.window) }
  | expire (deadline : Nat) (hphase : d.phase = .armed deadline) (hdue : deadline ≤ d.now) :
    Transition d .expire { d with phase := .working }
  | finish (hphase : d.phase = .working) : Transition d .finish { d with phase := .idle }
  | elapse (ms : Nat)
      (hfree : ms = 0 ∨ d.isDue = false ∧ d.mayReach (d.now + ms) = true) :
    Transition d (.elapse ms) { d with now := d.now + ms }

/-- Every event is a transition. -/
theorem transition_of_step? (h : d.step? e = some d') : Transition d e d' := by
  cases e with
  | notify =>
    obtain rfl : _ = d' := Option.some.inj h
    exact .notify
  | wake =>
    by_cases hphase : d.phase = .working
    · simp [step?, hphase] at h
    · cases hpending : d.trigger.pending with
      | false => simp [step?, hphase, Trigger.take?, hpending] at h
      | true =>
        obtain rfl : _ = d' := by simpa [step?, hphase, Trigger.take?, hpending] using h
        exact .wake hphase hpending
  | expire =>
    cases hphase : d.phase with
    | idle => simp [step?, hphase] at h
    | working => simp [step?, hphase] at h
    | armed deadline =>
      by_cases hdue : deadline ≤ d.now
      · obtain rfl : _ = d' := by simpa [step?, hphase, hdue] using h
        exact .expire deadline hphase hdue
      · simp [step?, hphase, hdue] at h
  | finish =>
    by_cases hphase : d.phase = .working
    · obtain rfl : _ = d' := by simpa [step?, hphase] using h
      exact .finish hphase
    · simp [step?, hphase] at h
  | elapse ms =>
    obtain ⟨hfree, rfl⟩ := eq_of_elapse h
    exact .elapse ms hfree

/-- Lets the clock go on, whatever there is to do. -/
def delay (d : Debouncer) (ms : Nat) : Debouncer := { d with now := d.now + ms }

/-- A run that never ends, with how late each of its events is. -/
structure EndlessRun (window : Nat) where
  state : Nat → Debouncer
  late : Nat → Nat
  event : Nat → Event
  starts : state 0 = { window }
  goesOn : ∀ n, ((state n).delay (late n)).step? (event n) = some (state (n + 1))

namespace EndlessRun

variable {window : Nat} (r : EndlessRun window)

def time (n : Nat) : Nat := (r.state n).now + r.late n

/-- Whether all do what they have to: work ends, what is due is attended to, and time passes. -/
structure IsFair : Prop where
  workEnds : ∀ n, (r.state n).phase = .working → ∃ m, n ≤ m ∧ r.event m = .finish
  dueDone : ∀ n, (r.state n).isDue = true →
    ∃ m, n ≤ m ∧ (r.event m = .wake ∨ r.event m = .expire)
  timePasses : ∀ t, ∃ n, t ≤ (r.state n).now

theorem transition (n : Nat) :
    Transition ((r.state n).delay (r.late n)) (r.event n) (r.state (n + 1)) :=
  transition_of_step? (r.goesOn n)

theorem window_eq (n : Nat) : (r.state n).window = window := by
  induction n with
  | zero => rw [r.starts]
  | succ n ih =>
    have hstep := r.transition n
    generalize r.event n = e, r.state (n + 1) = d at hstep
    cases hstep <;> exact ih

theorem time_le (n : Nat) : r.time n ≤ (r.state (n + 1)).now := by
  have hstep := r.transition n
  generalize r.event n = e, r.state (n + 1) = d at hstep
  cases hstep with
  | elapse ms => exact Nat.le_add_right _ _
  | notify | wake | expire | finish => exact Nat.le_refl _

theorem now_mono {m n : Nat} (h : m ≤ n) : (r.state m).now ≤ (r.state n).now := by
  induction n, h using Nat.le_induction with
  | base => exact Nat.le_refl _
  | succ n _ ih => exact ih.trans ((Nat.le_add_right _ _).trans (r.time_le n))

/-- Where what is due is never late, it is done, since time does not pass before. -/
theorem dueDone_of_onTime (honTime : ∀ n, r.late n = 0)
    (hpasses : ∀ t, ∃ n, t ≤ (r.state n).now) (n : Nat) (hdue : (r.state n).isDue = true) :
    ∃ m, n ≤ m ∧ (r.event m = .wake ∨ r.event m = .expire) := by
  by_contra hnone
  push Not at hnone
  have hstuck (m : Nat) (hm : n ≤ m) :
      (r.state m).isDue = true ∧ (r.state m).now = (r.state n).now := by
    induction m, hm using Nat.le_induction with
    | base => exact ⟨hdue, rfl⟩
    | succ m hm ih =>
      have hstep := r.transition m
      have hdelay : (r.state m).delay (r.late m) = r.state m := by simp [delay, honTime]
      rw [hdelay] at hstep
      obtain ⟨hwake, hexpire⟩ := hnone m hm
      generalize r.event m = e, r.state (m + 1) = d at hstep hwake hexpire
      cases hstep with
      | wake => exact absurd rfl hwake
      | expire => exact absurd rfl hexpire
      | finish hphase => simp [isDue, hphase] at ih
      | elapse ms hfree =>
        obtain rfl | ⟨hfree, -⟩ := hfree
        · exact ih
        · simp [hfree] at ih
      | notify =>
        refine ⟨?_, ih.2⟩
        have hphase : (r.state m).phase ≠ .working := fun hphase => by simp [isDue, hphase] at ih
        cases hphase' : (r.state m).phase <;> simp_all [isDue]
  obtain ⟨m, hm⟩ := hpasses ((r.state n).now + 1)
  have hnow := (hstuck (max n m) (Nat.le_max_left _ _)).2
  have hmono := r.now_mono (Nat.le_max_right n m)
  omega

/-- Work never begins twice within a window. -/
theorem time_add_window_le {i j : Nat} (hij : i < j) (hi : r.event i = .expire)
    (hj : r.event j = .expire) : r.time i + window ≤ r.time j := by
  -- From the `i`-th event on a window ends only where it was begun after that event.
  have hlater (n : Nat) (hn : i + 1 ≤ n) : r.time i ≤ (r.state n).now ∧
      ∀ deadline, (r.state n).phase = .armed deadline → r.time i + window ≤ deadline := by
    induction n, hn using Nat.le_induction with
    | base =>
      refine ⟨r.time_le i, fun deadline harmed => ?_⟩
      have hstep := r.transition i
      rw [hi] at hstep
      generalize r.state (i + 1) = d at hstep harmed
      cases hstep
      cases harmed
    | succ n hn ih =>
      refine ⟨ih.1.trans (r.now_mono (Nat.le_succ n)), fun deadline harmed => ?_⟩
      have hstep := r.transition n
      generalize r.event n = e, r.state (n + 1) = d at hstep harmed
      cases hstep with
      | notify | elapse => exact ih.2 deadline harmed
      | expire | finish => cases harmed
      | wake =>
        obtain rfl := Phase.armed.inj harmed
        have hwindow := r.window_eq n
        have hearlier := ih.1
        simp only [delay]
        omega
  have hstep := r.transition j
  rw [hj] at hstep
  generalize r.state (j + 1) = d at hstep
  cases hstep with
  | expire deadline harmed hdue => exact ((hlater j hij).2 deadline harmed).trans hdue

/-- What every event from some point on keeps holds from there on. -/
theorem forall_of_step {p : Debouncer → Prop} {n : Nat} (hn : p (r.state n))
    (hstep : ∀ m, n ≤ m → p (r.state m) → p (r.state (m + 1))) (m : Nat) (hm : n ≤ m) :
    p (r.state m) := by
  induction m, hm using Nat.le_induction with
  | base => exact hn
  | succ m hm ih => exact hstep m hm ih

/-- Whether a debouncer is going to work: a notification is pending, or a window is running. -/
def IsOwed (d : Debouncer) : Prop := d.trigger.pending = true ∨ ∃ deadline, d.phase = .armed deadline

variable {r} {n : Nat}

/-- A notification leaves work to be done, until a window ends. -/
theorem isOwed_of_notify (hnotify : r.event n = .notify)
    (hnone : ∀ m, n < m → r.event m ≠ .expire) (m : Nat) (hm : n + 1 ≤ m) :
    IsOwed (r.state m) := by
  refine r.forall_of_step ?_ (fun m hm howed => ?_) m hm
  · have hstep := r.transition n
    rw [hnotify] at hstep
    generalize r.state (n + 1) = d at hstep
    cases hstep
    exact .inl rfl
  · have hstep := r.transition m
    have hexpire := hnone m hm
    generalize r.event m = e, r.state (m + 1) = d at hstep hexpire
    cases hstep with
    | notify => exact .inl rfl
    | wake => exact .inr ⟨_, rfl⟩
    | expire => exact absurd rfl hexpire
    | elapse => exact howed
    | finish hphase =>
      obtain hpending | ⟨deadline, harmed⟩ := howed
      · exact .inl hpending
      · exact absurd (hphase.symm.trans harmed) nofun

/-- Where no window ends any more, work comes to an end and does not begin again. -/
theorem exists_not_working (hfair : r.IsFair) (hnone : ∀ m, n ≤ m → r.event m ≠ .expire) :
    ∃ k, n ≤ k ∧ ∀ m, k ≤ m → (r.state m).phase ≠ .working := by
  have hstays (k : Nat) (hk : n ≤ k) (hphase : (r.state k).phase ≠ .working) (m : Nat)
      (hm : k ≤ m) : (r.state m).phase ≠ .working := by
    refine r.forall_of_step (p := fun d => d.phase ≠ .working) hphase (fun m hm hphase => ?_) m hm
    have hstep := r.transition m
    have hexpire := hnone m (hk.trans hm)
    generalize r.event m = e, r.state (m + 1) = d at hstep hexpire
    cases hstep with
    | expire => exact absurd rfl hexpire
    | wake | finish => exact nofun
    | notify | elapse => exact hphase
  by_cases hphase : (r.state n).phase = .working
  · obtain ⟨k, hk, hfinish⟩ := hfair.workEnds n hphase
    refine ⟨k + 1, hk.trans (Nat.le_succ k), hstays (k + 1) (hk.trans (Nat.le_succ k)) ?_⟩
    have hstep := r.transition k
    rw [hfinish] at hstep
    generalize r.state (k + 1) = d at hstep
    cases hstep
    exact nofun
  · exact ⟨n, Nat.le_refl n, hstays n (Nat.le_refl n) hphase⟩

/-- Where there are no more notifications and nobody is at work, the last one is taken. -/
theorem exists_not_pending (hfair : r.IsFair) (hnone : ∀ m, n ≤ m → r.event m ≠ .expire)
    (hquiet : ∀ m, n ≤ m → r.event m ≠ .notify)
    (hphase : ∀ m, n ≤ m → (r.state m).phase ≠ .working) :
    ∃ k, n ≤ k ∧ ∀ m, k ≤ m → (r.state m).trigger.pending = false := by
  have hstays (k : Nat) (hk : n ≤ k) (hpending : (r.state k).trigger.pending = false) (m : Nat)
      (hm : k ≤ m) : (r.state m).trigger.pending = false := by
    refine r.forall_of_step (p := fun d => d.trigger.pending = false) hpending
      (fun m hm hpending => ?_) m hm
    have hstep := r.transition m
    have hnotify := hquiet m (hk.trans hm)
    generalize r.event m = e, r.state (m + 1) = d at hstep hnotify
    cases hstep with
    | notify => exact absurd rfl hnotify
    | wake => rfl
    | expire | finish | elapse => exact hpending
  cases hpending : (r.state n).trigger.pending with
  | false => exact ⟨n, Nat.le_refl n, hstays n (Nat.le_refl n) hpending⟩
  | true =>
    have hdue : (r.state n).isDue = true := by
      have hidle := hphase n (Nat.le_refl n)
      cases hphase' : (r.state n).phase <;> simp_all [isDue]
    obtain ⟨k, hk, hwake | hexpire⟩ := hfair.dueDone n hdue
    · refine ⟨k + 1, hk.trans (Nat.le_succ k), hstays (k + 1) (hk.trans (Nat.le_succ k)) ?_⟩
      have hstep := r.transition k
      rw [hwake] at hstep
      generalize r.state (k + 1) = d at hstep
      cases hstep
      rfl
    · exact absurd hexpire (hnone k hk)

/-- A window that nobody restarts ends. -/
theorem exists_expire (hfair : r.IsFair)
    (hpending : ∀ m, n ≤ m → (r.state m).trigger.pending = false) {deadline : Nat}
    (harmed : (r.state n).phase = .armed deadline) : ∃ m, n ≤ m ∧ r.event m = .expire := by
  by_contra hnone
  push Not at hnone
  have hwake (m : Nat) (hm : n ≤ m) : r.event m ≠ .wake := by
    intro hwake
    have hstep := r.transition m
    rw [hwake] at hstep
    generalize r.state (m + 1) = d at hstep
    cases hstep with
    | wake hphase htrue => exact absurd ((hpending m hm).symm.trans htrue) nofun
  have hstays (m : Nat) (hm : n ≤ m) : (r.state m).phase = .armed deadline := by
    refine r.forall_of_step (p := fun d => d.phase = .armed deadline) harmed
      (fun m hm harmed => ?_) m hm
    have hstep := r.transition m
    have hexpire := hnone m hm
    have hwake := hwake m hm
    generalize r.event m = e, r.state (m + 1) = d at hstep hexpire hwake
    cases hstep with
    | wake => exact absurd rfl hwake
    | expire => exact absurd rfl hexpire
    | finish hphase => exact absurd (hphase.symm.trans harmed) nofun
    | notify | elapse => exact harmed
  obtain ⟨m, hm⟩ := hfair.timePasses deadline
  have hreached : deadline ≤ (r.state (max n m)).now := hm.trans (r.now_mono (Nat.le_max_right n m))
  have hdue : (r.state (max n m)).isDue = true := by
    simp [isDue, hstays _ (Nat.le_max_left n m), hreached]
  obtain ⟨k, hk, hevent⟩ := hfair.dueDone _ hdue
  have hnk : n ≤ k := (Nat.le_max_left n m).trans hk
  obtain hevent | hevent := hevent
  · exact hwake k hnk hevent
  · exact hnone k hnk hevent

/-- Once notifications have ceased, work begins after each of them. -/
theorem exists_expire_of_notify (hfair : r.IsFair) {last : Nat}
    (hquiet : ∀ m, last ≤ m → r.event m ≠ .notify) (hnotify : r.event n = .notify) :
    ∃ m, n < m ∧ r.event m = .expire := by
  by_contra hnone
  push Not at hnone
  have hlater (m : Nat) (hm : max (n + 1) last ≤ m) : n < m ∧ last ≤ m := by omega
  obtain ⟨k, hk, hphase⟩ := exists_not_working (n := max (n + 1) last) hfair
    fun m hm => hnone m (hlater m hm).1
  obtain ⟨l, hl, hpending⟩ := exists_not_pending hfair
    (fun m hm => hnone m (hlater m (hk.trans hm)).1)
    (fun m hm => hquiet m (hlater m (hk.trans hm)).2) hphase
  have hafter := (hlater l (hk.trans hl)).1
  obtain htrue | ⟨deadline, harmed⟩ := isOwed_of_notify hnotify hnone l hafter
  · exact absurd ((hpending l (Nat.le_refl l)).symm.trans htrue) nofun
  · obtain ⟨m, hm, hexpire⟩ := exists_expire hfair hpending harmed
    exact hnone m (hafter.trans_le hm) hexpire

end EndlessRun

end Debouncer

end IngressProxy

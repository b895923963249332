import IngressProxy.Proofs.Watch.Debounce
import Mathlib.Data.List.SplitBy

namespace IngressProxy

namespace Debouncer

def Event.ms : Event → Nat
  | .elapse ms => ms
  | _ => 0

/-- When an event happens in a run that begins at a time. -/
def times (e : Event) (now : Nat) : List Event → List Nat
  | [] => []
  | e' :: rest => (if e' = e then [now] else []) ++ times e (now + e'.ms) rest

/-- Whether work takes no time in a run. -/
def WorksAtOnce (d : Debouncer) : List Event → Prop
  | [] => True
  | e :: rest =>
    (d.phase = .working → e.ms = 0) ∧ ∀ d', d.step? e = some d' → d'.WorksAtOnce rest

/-- Whether nothing is to be done before somebody notifies. -/
def IsAtRest (d : Debouncer) : Prop := d.phase = .idle ∧ d.trigger.pending = false

/-- When the window of a burst ends. -/
def dueTime (window : Nat) (burst : List Nat) : Nat := burst.getLastD 0 + window

/-- Whether notifications fall into bursts: within a burst each comes at most a window after the one
before, and between two bursts at least a window passes. -/
structure AreBursts (window : Nat) (bursts : List (List Nat)) : Prop where
  nonempty : [] ∉ bursts
  close : ∀ burst ∈ bursts, burst.IsChain fun s t => t ≤ s + window
  apart : bursts.IsChain fun b c => ∀ s ∈ b.getLast?, ∀ t ∈ c.head?, s + window ≤ t

/-- The longest runs of notifications that come less than a window after each other. -/
def maximalBursts (window : Nat) (ts : List Nat) : List (List Nat) :=
  ts.splitBy fun s t => t < s + window

variable {window : Nat}

theorem dueTime_of_getLast? {burst : List Nat} {t : Nat} (h : burst.getLast? = some t) :
    dueTime window burst = t + window := by
  rw [dueTime, List.getLastD_eq_getLast?, h]
  rfl

theorem areBursts_maximalBursts (window : Nat) (ts : List Nat) :
    AreBursts window (maximalBursts window ts) where
  nonempty := List.nil_notMem_splitBy _ ts
  close burst hburst := by
    have hchain := List.isChain_of_mem_splitBy hburst
    exact hchain.imp fun s t hlt => Nat.le_of_lt (of_decide_eq_true hlt)
  apart := by
    have hchain := List.isChain_getLast_head_splitBy (fun s t => decide (t < s + window)) ts
    refine hchain.imp fun b c h s hs t ht => ?_
    obtain ⟨hb, hc, hge⟩ := h
    rw [List.getLast_of_mem_getLast? hs, List.head_of_mem_head? ht] at hge
    exact Nat.le_of_not_lt (of_decide_eq_false hge)

/-- Where no two notifications are exactly a window apart, there is one way to see the bursts. -/
theorem AreBursts.eq_maximalBursts {bursts : List (List Nat)} (h : AreBursts window bursts)
    (hties : bursts.flatten.IsChain fun s t => t ≠ s + window) :
    bursts = maximalBursts window bursts.flatten := by
  refine (List.splitBy_flatten h.nonempty (fun burst hburst => ?_) ?_).symm
  · have hclose := List.isChain_iff_getElem.mp (h.close burst hburst)
    have hties := List.IsChain.infix hties (List.infix_of_mem_flatten hburst)
    have hties := List.isChain_iff_getElem.mp hties
    refine List.isChain_iff_getElem.mpr fun i hi => decide_eq_true ?_
    exact Nat.lt_of_le_of_ne (hclose i hi) (hties i hi)
  · refine h.apart.imp_of_mem_imp fun b c hb hc happart => ?_
    have hb : b ≠ [] := fun hnil => h.nonempty (hnil ▸ hb)
    have hc : c ≠ [] := fun hnil => h.nonempty (hnil ▸ hc)
    refine ⟨hb, hc, decide_eq_false (Nat.not_lt.mpr ?_)⟩
    exact happart _ (List.getLast_mem_getLast? hb) _ (List.head_mem_head? hc)

theorem now_of_transition {d d' : Debouncer} {e : Event} (h : Transition d e d') :
    d'.now = d.now + e.ms := by
  cases h <;> rfl

/-- How far a debouncer has come with the notifications up to now: there are bursts that it has worked
off, a burst whose window is running, and notifications that it has not taken yet. -/
structure Progress (window : Nat) (d : Debouncer) (notified worked : List Nat)
    (bursts : List (List Nat)) (current fresh : List Nat) : Prop where
  window_eq : d.window = window
  notified_eq : notified = bursts.flatten ++ (current ++ fresh)
  worked_eq : worked = bursts.map (dueTime window)
  nonempty : [] ∉ bursts
  close : ∀ burst ∈ bursts ++ [current ++ fresh], burst.IsChain fun s t => t ≤ s + window
  apart : (bursts ++ [current ++ fresh]).IsChain fun b c =>
    ∀ s ∈ b.getLast?, ∀ t ∈ c.head?, s + window ≤ t
  past : ∀ burst ∈ bursts, dueTime window burst ≤ d.now
  recent : ∀ t ∈ current.getLast?, d.now ≤ t + window
  fresh_eq : ∀ t ∈ fresh, t = d.now
  pending_iff : d.trigger.pending = true ↔ fresh ≠ []
  armed : ∀ deadline, d.phase = .armed deadline →
    ∃ t, current.getLast? = some t ∧ deadline = t + window
  unarmed : (∀ deadline, d.phase ≠ .armed deadline) → current = []

namespace Progress

variable {d d' : Debouncer} {e : Event} {notified worked : List Nat} {bursts : List (List Nat)}
  {current fresh : List Nat}

theorem getLast?_fresh (h : Progress window d notified worked bursts current fresh)
    (hfresh : fresh ≠ []) : (current ++ fresh).getLast? = some d.now := by
  have hlast := h.fresh_eq _ (List.getLast_mem hfresh)
  rw [List.getLast?_append, List.getLast?_eq_some_getLast hfresh, hlast]
  rfl

/-- The newest notification is not older than a window. -/
theorem now_le (h : Progress window d notified worked bursts current fresh) {t : Nat}
    (ht : (current ++ fresh).getLast? = some t) : d.now ≤ t + window := by
  by_cases hfresh : fresh = []
  · rw [hfresh, List.append_nil] at ht
    exact h.recent t ht
  · obtain rfl := Option.some.inj ((h.getLast?_fresh hfresh).symm.trans ht)
    exact Nat.le_add_right _ _

/-- A notification joins the newest burst: as a rule its window is running. -/
theorem notify (h : Progress window d notified worked bursts current fresh) :
    Progress window { d with trigger.pending := true } (notified ++ [d.now]) worked bursts current
      (fresh ++ [d.now]) where
  window_eq := h.window_eq
  notified_eq := by simp [h.notified_eq]
  worked_eq := h.worked_eq
  nonempty := h.nonempty
  close burst hburst := by
    obtain hburst | hburst := List.mem_append.mp hburst
    · exact h.close burst (List.mem_append_left _ hburst)
    · obtain rfl := List.mem_singleton.mp hburst
      rw [← List.append_assoc]
      refine List.isChain_append.mpr ⟨?_, List.isChain_singleton _, fun s hs t ht => ?_⟩
      · exact h.close _ (List.mem_append_right _ (List.mem_singleton_self _))
      · obtain rfl : d.now = t := Option.some.inj ht
        exact h.now_le hs
  apart := by
    obtain ⟨hbursts, -, hnext⟩ := List.isChain_append.mp h.apart
    refine List.isChain_append.mpr
      ⟨hbursts, List.isChain_singleton _, fun b hb c hc s hs t ht => ?_⟩
    obtain rfl : _ = c := Option.some.inj hc
    by_cases hopen : current ++ fresh = []
    · obtain ⟨rfl, rfl⟩ := List.append_eq_nil_iff.mp hopen
      obtain rfl : d.now = t := Option.some.inj ht
      rw [← dueTime_of_getLast? hs]
      exact h.past b (List.mem_of_getLast? hb)
    · rw [← List.append_assoc, List.head?_append_of_ne_nil _ hopen] at ht
      exact hnext b hb _ rfl s hs t ht
  past := h.past
  recent := h.recent
  fresh_eq t ht := by
    obtain ht | ht := List.mem_append.mp ht
    · exact h.fresh_eq t ht
    · exact List.mem_singleton.mp ht
  pending_iff := by simp
  armed := h.armed
  unarmed := h.unarmed

/-- What was pending counts for the window that begins with it. -/
theorem wake (h : Progress window d notified worked bursts current fresh)
    (hpending : d.trigger.pending = true) :
    Progress window { d with trigger.pending := false, phase := .armed (d.now + d.window) } notified
      worked bursts (current ++ fresh) [] where
  window_eq := h.window_eq
  notified_eq := by rw [h.notified_eq, List.append_nil]
  worked_eq := h.worked_eq
  nonempty := h.nonempty
  close := by simpa only [List.append_nil] using h.close
  apart := by simpa only [List.append_nil] using h.apart
  past := h.past
  recent t ht := h.now_le ht
  fresh_eq := nofun
  pending_iff := by simp
  armed deadline hdeadline := by
    obtain rfl := Phase.armed.inj hdeadline
    exact ⟨d.now, h.getLast?_fresh (h.pending_iff.mp hpending), by rw [h.window_eq]⟩
  unarmed hnone := absurd rfl (hnone _)

/-- The end of its window closes a burst. What is pending then belongs to the next one. -/
theorem expire (h : Progress window d notified worked bursts current fresh) {deadline : Nat}
    (hphase : d.phase = .armed deadline) (hdue : deadline ≤ d.now) :
    Progress window { d with phase := .working } notified (worked ++ [d.now]) (bursts ++ [current]) []
      fresh := by
  obtain ⟨last, hlast, rfl⟩ := h.armed deadline hphase
  have hne : current ≠ [] := by
    rintro rfl
    cases hlast
  have hnow : dueTime window current = d.now := by
    rw [dueTime_of_getLast? hlast]
    exact Nat.le_antisymm hdue (h.recent last hlast)
  obtain ⟨hbursts, -, hnext⟩ := List.isChain_append.mp h.apart
  have hopen := h.close _ (List.mem_append_right _ (List.mem_singleton_self _))
  exact {
    window_eq := h.window_eq
    notified_eq := by simp [h.notified_eq]
    worked_eq := by simp [h.worked_eq, hnow]
    nonempty := by simp [h.nonempty, hne.symm]
    close := by
      intro burst hburst
      rw [List.append_assoc] at hburst
      obtain hburst | hburst := List.mem_append.mp hburst
      · exact h.close burst (List.mem_append_left _ hburst)
      · obtain ⟨hcurrent, hfresh, -⟩ := List.isChain_append.mp hopen
        simp only [List.mem_cons, List.cons_append, List.nil_append, List.not_mem_nil,
          or_false] at hburst
        obtain rfl | rfl := hburst
        · exact hcurrent
        · exact hfresh
    apart := by
      refine List.isChain_append.mpr
        ⟨?_, List.isChain_singleton _, fun b hb c hc s hs t ht => ?_⟩
      · refine List.isChain_append.mpr
          ⟨hbursts, List.isChain_singleton _, fun b hb c hc s hs t ht => ?_⟩
        obtain rfl : current = c := Option.some.inj hc
        refine hnext b hb _ rfl s hs t ?_
        rwa [List.head?_append_of_ne_nil _ hne]
      · obtain rfl : current = b := by simpa using hb
        obtain rfl : fresh = c := Option.some.inj hc
        rw [← dueTime_of_getLast? hs, hnow]
        exact Nat.le_of_eq (h.fresh_eq t (List.mem_of_mem_head? ht)).symm
    past := by
      intro burst hburst
      obtain hburst | hburst := List.mem_append.mp hburst
      · exact h.past burst hburst
      · obtain rfl := List.mem_singleton.mp hburst
        exact Nat.le_of_eq hnow
    recent := nofun
    fresh_eq := h.fresh_eq
    pending_iff := h.pending_iff
    armed := nofun
    unarmed := fun _ => rfl }

theorem finish (h : Progress window d notified worked bursts current fresh)
    (hphase : d.phase = .working) :
    Progress window { d with phase := .idle } notified worked bursts current fresh :=
  { h with
    armed := nofun
    unarmed := fun _ => h.unarmed (by rw [hphase]; exact nofun) }

theorem elapse (h : Progress window d notified worked bursts current fresh) {ms : Nat}
    (hfree : ms = 0 ∨ d.isDue = false ∧ d.mayReach (d.now + ms) = true)
    (hwork : d.phase = .working → ms = 0) :
    Progress window { d with now := d.now + ms } notified worked bursts current fresh := by
  obtain rfl | ⟨hdue, hreach⟩ := hfree
  · exact h
  · by_cases hms : ms = 0
    · subst hms
      exact h
    · have hnotWorking : d.phase ≠ .working := fun hphase => hms (hwork hphase)
      have hpending : ¬ d.trigger.pending = true := by
        intro hpending
        cases hphase : d.phase <;> simp_all [isDue]
      have hfresh : fresh = [] := by simpa using mt h.pending_iff.mpr hpending
      exact { h with
        past := fun burst hburst => (h.past burst hburst).trans (Nat.le_add_right _ _)
        recent := by
          intro t ht
          cases hphase : d.phase with
          | armed deadline =>
            obtain ⟨last, hlast, rfl⟩ := h.armed deadline hphase
            obtain rfl := Option.some.inj (hlast.symm.trans ht)
            simpa [mayReach, hphase] using hreach
          | idle | working =>
            have hnil := h.unarmed (by simp [hphase])
            rw [hnil] at ht
            cases ht
        fresh_eq := by simp [hfresh] }

theorem of_transition (h : Progress window d notified worked bursts current fresh)
    (hstep : Transition d e d') (hwork : d.phase = .working → e.ms = 0) :
    ∃ bursts' current' fresh',
      Progress window d' (notified ++ if e = .notify then [d.now] else [])
        (worked ++ if e = .expire then [d.now] else []) bursts' current' fresh' := by
  cases hstep with
  | notify => exact ⟨_, _, _, by simpa using h.notify⟩
  | wake hphase hpending => exact ⟨_, _, _, by simpa using h.wake hpending⟩
  | expire deadline hphase hdue => exact ⟨_, _, _, by simpa using h.expire hphase hdue⟩
  | finish hphase => exact ⟨_, _, _, by simpa using h.finish hphase⟩
  | elapse ms hfree => exact ⟨_, _, _, by simpa using h.elapse hfree hwork⟩

theorem of_run? {es : List Event} (h : Progress window d notified worked bursts current fresh)
    (hrun : d.run? es = some d') (hwork : d.WorksAtOnce es) :
    ∃ bursts' current' fresh',
      Progress window d' (notified ++ times .notify d.now es) (worked ++ times .expire d.now es)
        bursts' current' fresh' := by
  induction es generalizing d notified worked bursts current fresh with
  | nil =>
    obtain rfl : d = d' := Option.some.inj hrun
    exact ⟨_, _, _, by simpa [times] using h⟩
  | cons e es ih =>
    obtain ⟨next, hnext, hrest⟩ := Option.bind_eq_some_iff.mp hrun
    have hstep := transition_of_step? hnext
    obtain ⟨_, _, _, hprogress⟩ := h.of_transition hstep hwork.1
    have hnow := now_of_transition hstep
    obtain ⟨_, _, _, hlater⟩ := ih hprogress hrest (hwork.2 next hnext)
    exact ⟨_, _, _, by simpa only [times, hnow, List.append_assoc] using hlater⟩

theorem start (window : Nat) : Progress window { window } [] [] [] [] [] where
  window_eq := rfl
  notified_eq := rfl
  worked_eq := rfl
  nonempty := List.not_mem_nil
  close := by simp
  apart := List.isChain_singleton _
  past := nofun
  recent := nofun
  fresh_eq := nofun
  pending_iff := by simp
  armed := nofun
  unarmed _ := rfl

/-- The bursts that were worked off, and the one that is not over yet, if there is one. -/
theorem exists_areBursts (h : Progress window d notified worked bursts current fresh) :
    ∃ newest : Option (List Nat), AreBursts window (bursts ++ newest.toList) ∧
      notified = (bursts ++ newest.toList).flatten ∧ worked = bursts.map (dueTime window) ∧
      (∀ burst ∈ newest, d.now ≤ dueTime window burst) ∧ (d.IsAtRest → newest = none) := by
  by_cases hopen : current ++ fresh = []
  · refine ⟨none, ?_, by simp [h.notified_eq, hopen], h.worked_eq, nofun, fun _ => rfl⟩
    have hbursts := (List.isChain_append.mp h.apart).1
    simpa using AreBursts.mk h.nonempty
      (fun burst hburst => h.close burst (List.mem_append_left _ hburst)) hbursts
  · refine ⟨some (current ++ fresh), ⟨?_, h.close, h.apart⟩, by simp [h.notified_eq],
      h.worked_eq, ?_, fun hrest => absurd ?_ hopen⟩
    · simp [h.nonempty, eq_comm, hopen]
    · rintro burst ⟨⟩
      have hlast := List.getLast?_eq_some_getLast hopen
      rw [dueTime_of_getLast? hlast]
      exact h.now_le hlast
    · have hcurrent := h.unarmed (by rw [hrest.1]; exact nofun)
      have hfresh : ¬ fresh ≠ [] := fun hne => by
        have hpending := h.pending_iff.mpr hne
        rw [hrest.2] at hpending
        cases hpending
      simp [hcurrent, not_not.mp hfresh]

end Progress

/-- Whether a debouncer can be notified at given times, so that it works at given times and comes to
rest. -/
def Serves (d : Debouncer) (notified worked : List Nat) : Prop :=
  ∃ es d', d.run? es = some d' ∧ d.WorksAtOnce es ∧ d'.IsAtRest ∧
    times .notify d.now es = notified ∧ times .expire d.now es = worked

theorem Serves.cons {d d' : Debouncer} {e : Event} {notified worked : List Nat}
    (h : d'.Serves notified worked) (hstep : d.step? e = some d')
    (hwork : d.phase = .working → e.ms = 0) :
    d.Serves ((if e = .notify then [d.now] else []) ++ notified)
      ((if e = .expire then [d.now] else []) ++ worked) := by
  obtain ⟨es, last, hrun, hatOnce, hrest, rfl, rfl⟩ := h
  have hnow := now_of_transition (transition_of_step? hstep)
  refine ⟨e :: es, last, ?_, ⟨hwork, fun next hnext => ?_⟩, hrest, ?_, ?_⟩
  · rw [run?, List.foldlM_cons, hstep]
    exact hrun
  · obtain rfl := Option.some.inj (hstep.symm.trans hnext)
    exact hatOnce
  · rw [times, hnow]
  · rw [times, hnow]

/-- A debouncer whose window began at a time. -/
def armedAt (window now : Nat) : Debouncer := { window, now, phase := .armed (now + window) }

theorem step?_elapse_armedAt {now ms : Nat} (hms : ms ≤ window) :
    (armedAt window now).step? (.elapse ms) =
      some { armedAt window now with now := now + ms } := by
  by_cases hzero : ms = 0
  · subst hzero
    rfl
  · have hnotDue : ¬ now + window ≤ now := by omega
    simp [step?, isDue, mayReach, armedAt, hzero, hnotDue, hms]

theorem serves_armedAt {now : Nat} {ts notified worked : List Nat}
    (hclose : (now :: ts).IsChain fun s t => t ≤ s + window)
    (hsorted : (now :: ts).Pairwise (· ≤ ·))
    (hlater : Serves { window, now := dueTime window (now :: ts) } notified worked) :
    (armedAt window now).Serves (ts ++ notified) (dueTime window (now :: ts) :: worked) := by
  induction ts generalizing now with
  | nil =>
    -- Nobody notifies until the window ends.
    have hidle : Serves { window, now := now + window, phase := .working } notified worked :=
      hlater.cons (e := .finish) rfl fun _ => rfl
    have hended : Serves { armedAt window now with now := now + window } notified
        ((now + window) :: worked) :=
      hidle.cons (e := .expire) (if_pos (Nat.le_refl _)) nofun
    exact hended.cons (step?_elapse_armedAt (Nat.le_refl window)) nofun
  | cons t ts ih =>
    obtain ⟨ht, hclose⟩ := List.isChain_cons_cons.mp hclose
    obtain ⟨hle, hsorted⟩ := List.pairwise_cons.mp hsorted
    have hnow : now + (t - now) = t := Nat.add_sub_cancel' (hle t List.mem_cons_self)
    have hms : t - now ≤ window := by omega
    have hrestarted := ih hclose hsorted hlater
    have htold : Serves { armedAt window now with now := t, trigger := ⟨true⟩ } (ts ++ notified)
        (dueTime window (t :: ts) :: worked) :=
      hrestarted.cons (e := .wake) rfl nofun
    have hreached : Serves { armedAt window now with now := t } (t :: ts ++ notified)
        (dueTime window (t :: ts) :: worked) :=
      htold.cons (e := .notify) rfl nofun
    refine hreached.cons (e := .elapse (t - now)) ?_ nofun
    rw [step?_elapse_armedAt hms, hnow]

theorem serves_bursts {bursts : List (List Nat)} (h : AreBursts window bursts)
    (hsorted : bursts.flatten.Pairwise (· ≤ ·)) {now : Nat}
    (hnow : ∀ burst ∈ bursts.head?, ∀ t ∈ burst.head?, now ≤ t) :
    Serves { window, now } bursts.flatten (bursts.map (dueTime window)) := by
  induction bursts generalizing now with
  | nil => exact ⟨[], _, rfl, trivial, ⟨rfl, rfl⟩, rfl, rfl⟩
  | cons burst bursts ih =>
    obtain ⟨hne, hnonempty⟩ := List.ne_and_not_mem_of_not_mem_cons h.nonempty
    obtain ⟨hnext, hapart⟩ := List.isChain_cons.mp h.apart
    rw [List.flatten_cons, List.pairwise_append] at hsorted
    obtain ⟨hburst, hbursts, -⟩ := hsorted
    obtain ⟨t, ts, rfl⟩ := List.exists_cons_of_ne_nil hne.symm
    have hlater : Serves { window, now := dueTime window (t :: ts) } bursts.flatten
        (bursts.map (dueTime window)) := by
      have hlast := List.getLast?_eq_some_getLast (List.cons_ne_nil t ts)
      refine ih ⟨hnonempty, fun c hc => h.close c (List.mem_cons_of_mem _ hc), hapart⟩ hbursts
        fun c hc s hs => ?_
      rw [dueTime_of_getLast? hlast]
      exact hnext c hc _ hlast s hs
    have hreach : now + (t - now) = t := Nat.add_sub_cancel' (hnow _ rfl t rfl)
    have harmed := serves_armedAt (h.close _ List.mem_cons_self) hburst hlater
    have htold : Serves { window, now := t, trigger := ⟨true⟩ } (ts ++ bursts.flatten)
        (((t :: ts) :: bursts).map (dueTime window)) :=
      harmed.cons (e := .wake) rfl nofun
    have hreached : Serves { window, now := t } (t :: ts ++ bursts.flatten)
        (((t :: ts) :: bursts).map (dueTime window)) :=
      htold.cons (e := .notify) rfl nofun
    refine hreached.cons (e := .elapse (t - now)) ?_ nofun
    by_cases hzero : t - now = 0
    · have heq : t = now := by omega
      simp [step?, heq]
    · simp [step?, hzero, isDue, mayReach, hreach]

/-- Whenever work takes no time: whatever the run, it has worked off the bursts of the notifications
except for one that is at most a window old, each exactly when its window ended, and in no other way;
all of them if it is at rest, and where no two notifications are exactly a window apart, these are the
longest runs of closer ones. Every sequence of bursts is one that can be worked off like this. And
whatever the work takes and however late things are done: work never begins twice within a window, and
if all parties do what they have to and notifications cease, it begins after each of them. -/
theorem works_once_per_burst (window : Nat) :
    (∀ es d, run? { window } es = some d → WorksAtOnce { window } es →
      (∃ (bursts : List (List Nat)) (newest : Option (List Nat)),
        AreBursts window (bursts ++ newest.toList) ∧
        times .notify 0 es = (bursts ++ newest.toList).flatten ∧
        times .expire 0 es = bursts.map (dueTime window) ∧
        (∀ burst ∈ newest, d.now ≤ dueTime window burst) ∧ (d.IsAtRest → newest = none)) ∧
      (d.IsAtRest → ((times .notify 0 es).IsChain fun s t => t ≠ s + window) →
        times .expire 0 es = (maximalBursts window (times .notify 0 es)).map (dueTime window))) ∧
    (∀ ts : List Nat, ts.Pairwise (· ≤ ·) →
      AreBursts window (maximalBursts window ts) ∧ (maximalBursts window ts).flatten = ts ∧
      ∀ bursts, AreBursts window bursts → bursts.flatten = ts →
        ∃ es d, run? { window } es = some d ∧ WorksAtOnce { window } es ∧ d.IsAtRest ∧
          times .notify 0 es = ts ∧ times .expire 0 es = bursts.map (dueTime window)) ∧
    ∀ r : EndlessRun window,
      (∀ i j, i < j → r.event i = .expire → r.event j = .expire →
        r.time i + window ≤ r.time j) ∧
      (r.IsFair → (∃ last, ∀ n, last ≤ n → r.event n ≠ .notify) →
        ∀ i, r.event i = .notify → ∃ j, i < j ∧ r.event j = .expire) := by
  refine ⟨fun es d hrun hwork => ?_, fun ts hsorted => ⟨areBursts_maximalBursts window ts,
    List.flatten_splitBy _ ts, fun bursts hbursts hflatten => ?_⟩, fun r => ⟨fun i j => ?_, ?_⟩⟩
  · obtain ⟨_, _, _, hprogress⟩ := (Progress.start window).of_run? hrun hwork
    obtain ⟨newest, hbursts, hnotified, hworked, hdue, hrest⟩ := hprogress.exists_areBursts
    refine ⟨⟨_, newest, hbursts, hnotified, hworked, hdue, hrest⟩, fun hatRest hties => ?_⟩
    obtain rfl := hrest hatRest
    simp only [Option.toList_none, List.append_nil, List.nil_append] at hbursts hnotified hworked
    rw [hnotified] at hties ⊢
    rw [hworked, ← hbursts.eq_maximalBursts hties]
  · subst hflatten
    exact serves_bursts hbursts hsorted fun _ _ _ _ => Nat.zero_le _
  · exact r.time_add_window_le
  · rintro hfair ⟨last, hquiet⟩ i hnotify
    exact EndlessRun.exists_expire_of_notify hfair hquiet hnotify

/-- An endless run with one notification, which is never late. -/
def lonelyRun : EndlessRun 10 where
  state
    | 0 => { window := 10 }
    | 1 => { window := 10, trigger := ⟨true⟩ }
    | 2 => armedAt 10 0
    | 3 => { armedAt 10 0 with now := 10 }
    | 4 => { window := 10, now := 10, phase := .working }
    | n + 5 => { window := 10, now := 10 + n }
  late _ := 0
  event
    | 0 => .notify
    | 1 => .wake
    | 2 => .elapse 10
    | 3 => .expire
    | 4 => .finish
    | _ => .elapse 1
  starts := rfl
  goesOn
    | 0 | 1 | 2 | 3 | 4 => rfl
    | _ + 5 => rfl

theorem isFair_lonelyRun : lonelyRun.IsFair := by
  have hpasses : ∀ t, ∃ n, t ≤ (lonelyRun.state n).now := fun t => ⟨t + 5, Nat.le_add_left t 10⟩
  refine ⟨fun n hphase => ?_, lonelyRun.dueDone_of_onTime (fun _ => rfl) hpasses, hpasses⟩
  match n with
  | 0 | 1 | 2 | 3 | _ + 5 => cases hphase
  | 4 => exact ⟨4, Nat.le_refl 4, rfl⟩

/-- Two notifications that are exactly a window apart, worked off at once and one by one. -/
theorem works_once_per_burst_tie :
    (∃ es d, run? { window := 10 } es = some d ∧ d.IsAtRest ∧ times .notify 0 es = [0, 10] ∧
      times .expire 0 es = [20]) ∧
    (∃ es d, run? { window := 10 } es = some d ∧ d.IsAtRest ∧ times .notify 0 es = [0, 10] ∧
      times .expire 0 es = [10, 20]) ∧
    ∃ j, 0 < j ∧ lonelyRun.event j = .expire := by
  obtain ⟨-, hserved, hendless⟩ := works_once_per_burst 10
  obtain ⟨-, -, hserved⟩ := hserved [0, 10] (by decide)
  obtain ⟨es, d, hrun, -, hrest, hnotified, hworked⟩ :=
    hserved [[0, 10]] ⟨by decide, by simp, by simp⟩ rfl
  obtain ⟨es', d', hrun', -, hrest', hnotified', hworked'⟩ :=
    hserved [[0], [10]] ⟨by decide, by simp, by simp⟩ rfl
  refine ⟨⟨es, d, hrun, hrest, hnotified, hworked⟩, ⟨es', d', hrun', hrest', hnotified', hworked'⟩,
    (hendless lonelyRun).2 isFair_lonelyRun ⟨1, fun n hn => ?_⟩ 0 rfl⟩
  match n with
  | 1 | 2 | 3 | 4 | _ + 5 => exact nofun

end Debouncer

end IngressProxy

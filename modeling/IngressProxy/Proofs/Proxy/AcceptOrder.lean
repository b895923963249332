import IngressProxy.Proofs.Proxy.AcceptLoop
import Mathlib.Data.List.Induction
import Mathlib.Logic.Relation

namespace IngressProxy

def Arrival.number? : Arrival → Option Nat
  | .connection number => some number
  | .failure => none

/-- What an act has taken of what arrived. -/
def AcceptAct.arrival? : AcceptAct → Option Arrival
  | .handOver number => some (.connection number)
  | .failure => some .failure
  | .attempt | .lookAtShutdown _ => none

namespace AcceptLoop

def Event.arrival? : Event → Option Arrival
  | .arrive a => some a
  | .drain | .poll _ | .elapse _ | .task _ _ => none

/-- Whether an event is one of a task. -/
def Event.isTask (i : Nat) : Event → Bool
  | .task j _ => j = i
  | _ => false

/-- What was taken of what arrived, in order. -/
def taken (history : List (Nat × AcceptAct)) : List Arrival :=
  history.filterMap fun e => e.2.arrival?

/-- Whether an act may come after another one, each with its time: never once the shutdown signal was
seen, and as an attempt after a failure only after the pause. -/
structure MayFollow (a b : Nat × AcceptAct) : Prop where
  unseen : a.2 ≠ .lookAtShutdown true
  later : a.1 ≤ b.1
  paused : a.2 = .failure → b.2 = .attempt → a.1 + pause ≤ b.1

/-- One thing that the loop does when it is polled, and where it is possible. -/
inductive Move (l : AcceptLoop) : AcceptLoop → Prop where
  | goOn (hphase : l.phase ≠ .stopped) (hquiet : l.draining = false) :
    Move l (l.note (.lookAtShutdown false))
  | stop (hphase : l.phase ≠ .stopped) (hsignal : l.draining = true) :
    Move l { l.note (.lookAtShutdown true) with phase := .stopped }
  | attempt (hphase : l.phase = .accepting) (hwaiting : l.waiting = []) : Move l (l.note .attempt)
  | handOver (number : Nat) (rest : List Arrival) (hphase : l.phase = .accepting)
      (hwaiting : l.waiting = .connection number :: rest) :
    Move l (({ l.note .attempt with
      waiting := rest
      tasks := l.tasks ++ [Connection.accepted l.tls number] } : AcceptLoop).note
        (.handOver number))
  | fail (rest : List Arrival) (hphase : l.phase = .accepting)
      (hwaiting : l.waiting = .failure :: rest) :
    Move l (({ l.note .attempt with
      waiting := rest
      phase := .pausing (l.now + pause) } : AcceptLoop).note .failure)
  | resume (deadline : Nat) (hphase : l.phase = .pausing deadline) (hover : deadline ≤ l.now) :
    Move l { l with phase := .accepting }

section

open Relation

variable {l l' : AcceptLoop}

theorem lookAtShutdown_eq (l : AcceptLoop) :
    l.lookAtShutdown =
      if l.draining = true then { l.note (.lookAtShutdown true) with phase := .stopped }
      else l.note (.lookAtShutdown false) := by
  unfold lookAtShutdown
  cases hdraining : l.draining <;> simp [note, hdraining]

theorem move_lookAtShutdown (h : l.phase ≠ .stopped) : Move l l.lookAtShutdown := by
  rw [lookAtShutdown_eq]
  split
  · rename_i hsignal
    exact .stop h hsignal
  · rename_i hquiet
    exact .goOn h (by simpa using hquiet)

theorem phase_lookAtShutdown (h : l.lookAtShutdown.phase ≠ .stopped) :
    l.lookAtShutdown.phase = l.phase := by
  rw [lookAtShutdown_eq] at h ⊢
  split at h
  · exact absurd rfl h
  · rename_i hquiet
    rw [if_neg hquiet]
    rfl

theorem move_tryAccept (h : l.phase = .accepting) : Move l l.tryAccept.1 := by
  unfold tryAccept
  dsimp only
  split
  · rename_i hwaiting
    exact .attempt h hwaiting
  · rename_i number rest hwaiting
    exact .handOver number rest h hwaiting
  · rename_i rest hwaiting
    exact .fail rest h hwaiting

theorem phase_tryAccept (h : l.phase ≠ .stopped) : l.tryAccept.1.phase ≠ .stopped := by
  unfold tryAccept
  dsimp only
  split
  · exact h
  · exact h
  · exact nofun

theorem moves_resume {deadline : Nat} (h : l.phase = .pausing deadline) :
    ReflTransGen Move l (l.resume deadline).1 := by
  unfold resume
  split
  · rename_i hover
    exact .single (.resume deadline h hover)
  · exact .refl

theorem phase_resume (h : l.phase ≠ .stopped) (deadline : Nat) :
    (l.resume deadline).1.phase ≠ .stopped := by
  unfold resume
  split
  · exact nofun
  · exact h

theorem moves_race (first : Branch) {work : AcceptLoop → AcceptLoop × Bool}
    (hphase : l.phase ≠ .stopped)
    (hwork : ∀ v : AcceptLoop, v.phase = l.phase →
      ReflTransGen Move v (work v).1 ∧ (work v).1.phase ≠ .stopped) :
    ReflTransGen Move l (l.race first work) := by
  cases first with
  | work =>
    obtain ⟨hmoves, hgoesOn⟩ := hwork l rfl
    simp only [race]
    split
    · exact hmoves
    · exact hmoves.tail (move_lookAtShutdown hgoesOn)
  | shutdown =>
    have hlook : ReflTransGen Move l l.lookAtShutdown := .single (move_lookAtShutdown hphase)
    simp only [race]
    split
    · exact hlook
    · rename_i hgoesOn
      -- No signal was seen, so the phase is still the one that the work is meant for.
      exact hlook.trans (hwork _ (phase_lookAtShutdown hgoesOn)).1

theorem moves_poll (l : AcceptLoop) (first : Branch) : ReflTransGen Move l (l.poll first) := by
  unfold poll
  split
  · rename_i hphase
    have hgoesOn : l.phase ≠ .stopped := by simp [hphase]
    exact moves_race first hgoesOn fun v hv =>
      ⟨.single (move_tryAccept (hv.trans hphase)), phase_tryAccept (hv ▸ hgoesOn)⟩
  · rename_i deadline hphase
    have hgoesOn : l.phase ≠ .stopped := by simp [hphase]
    exact moves_race first hgoesOn fun v hv =>
      ⟨moves_resume (hv.trans hphase), phase_resume (hv ▸ hgoesOn) deadline⟩
  · exact .refl

section note

variable (act : AcceptAct)

@[simp] theorem tls_note : (l.note act).tls = l.tls := rfl

@[simp] theorem now_note : (l.note act).now = l.now := rfl

@[simp] theorem waiting_note : (l.note act).waiting = l.waiting := rfl

@[simp] theorem draining_note : (l.note act).draining = l.draining := rfl

@[simp] theorem phase_note : (l.note act).phase = l.phase := rfl

@[simp] theorem tasks_note : (l.note act).tasks = l.tasks := rfl

@[simp] theorem history_note : (l.note act).history = l.history ++ [(l.now, act)] := rfl

end note

/-- What the history of a loop has to do with what arrived and with what the loop is doing.
Everything that arrived was taken or waits; there is a task for each connection that was taken, in
their order, and no other; the acts are in an order in which they may come. The loop has stopped
exactly if it has seen the signal, and else it has kept every pause or keeps it until its deadline.
-/
structure Orderly (arrived : List Arrival) (l : AcceptLoop) : Prop where
  arrived : arrived = taken l.history ++ l.waiting
  tasks : l.tasks.map (·.number) = (taken l.history).filterMap Arrival.number?
  acts : l.history.Pairwise MayFollow
  past : ∀ t act, (t, act) ∈ l.history → t ≤ l.now
  stopped : l.phase = .stopped ↔ ∃ t, (t, .lookAtShutdown true) ∈ l.history
  signaled : l.phase = .stopped → l.draining = true
  accepting : l.phase = .accepting → ∀ t, (t, .failure) ∈ l.history → t + pause ≤ l.now
  pausing : ∀ deadline, l.phase = .pausing deadline →
    deadline ≤ l.now + pause ∧ ∀ t, (t, .failure) ∈ l.history → t + pause ≤ deadline

variable {arrived : List Arrival}

/-- A loop that has not stopped may go on with any act, but with an attempt only where it accepts. -/
theorem Orderly.pairwise_concat (h : Orderly arrived l) (hphase : l.phase ≠ .stopped)
    {act : AcceptAct} (hattempt : act = .attempt → l.phase = .accepting) :
    (l.history ++ [(l.now, act)]).Pairwise MayFollow := by
  refine List.pairwise_append.mpr ⟨h.acts, List.pairwise_singleton _ _, ?_⟩
  rintro ⟨t, a⟩ ha b hb
  obtain rfl := List.mem_singleton.mp hb
  refine ⟨?_, h.past t a ha, ?_⟩
  · rintro rfl
    exact hphase (h.stopped.mpr ⟨t, ha⟩)
  · rintro rfl hact
    exact h.accepting (hattempt hact) t ha

theorem Orderly.past_concat (h : Orderly arrived l) (act : AcceptAct) (t : Nat) (a : AcceptAct)
    (ha : (t, a) ∈ l.history ++ [(l.now, act)]) : t ≤ l.now := by
  obtain ha | ha := List.mem_append.mp ha
  · exact h.past t a ha
  · obtain ⟨rfl, -⟩ := Prod.ext_iff.mp (List.mem_singleton.mp ha)
    exact Nat.le_refl _

theorem Orderly.note (h : Orderly arrived l) (hphase : l.phase ≠ .stopped) {act : AcceptAct}
    (hact : act ≠ .lookAtShutdown true) (harrival : act.arrival? = none)
    (hattempt : act = .attempt → l.phase = .accepting) : Orderly arrived (l.note act) := by
  have hfailure : act ≠ .failure := by
    rintro rfl
    cases harrival
  exact {
    arrived := by simpa [taken, harrival] using h.arrived
    tasks := by simpa [taken, harrival] using h.tasks
    acts := h.pairwise_concat hphase hattempt
    past := h.past_concat act
    stopped := by simpa [hact.symm] using h.stopped
    signaled := h.signaled
    accepting := by simpa [hfailure.symm] using h.accepting
    pausing := by simpa [hfailure.symm] using h.pausing }

/-- An attempt is noted before anything is taken, while the loop still accepts. -/
theorem Orderly.attempt (h : Orderly arrived l) (hphase : l.phase = .accepting) :
    Orderly arrived (l.note .attempt) :=
  h.note (by simp [hphase]) nofun rfl fun _ => hphase

theorem Orderly.move (h : Orderly arrived l) (hmove : Move l l') : Orderly arrived l' := by
  cases hmove with
  | goOn hphase hquiet => exact h.note hphase (by simp) rfl nofun
  | stop hphase hsignal =>
    exact {
      arrived := by simpa [taken, AcceptAct.arrival?] using h.arrived
      tasks := by simpa [taken, AcceptAct.arrival?, Arrival.number?] using h.tasks
      acts := h.pairwise_concat hphase nofun
      past := h.past_concat _
      stopped := by simp
      signaled := fun _ => hsignal
      accepting := nofun
      pausing := nofun }
  | attempt hphase => exact h.attempt hphase
  | handOver number rest hphase hwaiting =>
    have hattempt := h.attempt hphase
    exact {
      arrived := by simpa [taken, AcceptAct.arrival?, hwaiting] using hattempt.arrived
      tasks := by simpa [taken, AcceptAct.arrival?, Arrival.number?] using hattempt.tasks
      acts := hattempt.pairwise_concat (by simp [hphase]) nofun
      past := hattempt.past_concat _
      stopped := by simpa using hattempt.stopped
      signaled := h.signaled
      accepting := by simpa using hattempt.accepting
      pausing := by simpa using hattempt.pausing }
  | fail rest hphase hwaiting =>
    have hattempt := h.attempt hphase
    exact {
      arrived := by simpa [taken, AcceptAct.arrival?, hwaiting] using hattempt.arrived
      tasks := by simpa [taken, AcceptAct.arrival?, List.filterMap_cons, Arrival.number?] using
        hattempt.tasks
      acts := hattempt.pairwise_concat (by simp [hphase]) nofun
      past := hattempt.past_concat _
      stopped := by simpa [hphase] using hattempt.stopped
      signaled := nofun
      accepting := nofun
      pausing := by
        rintro _ ⟨⟩
        refine ⟨Nat.le_refl _, fun t ht => ?_⟩
        obtain hbefore | hnow := List.mem_append.mp ht
        · exact Nat.le_trans (hattempt.accepting hphase t hbefore) (Nat.le_add_right _ _)
        · obtain ⟨rfl, -⟩ := Prod.ext_iff.mp (List.mem_singleton.mp hnow)
          exact Nat.le_refl _ }
  | resume deadline hphase hover =>
    obtain ⟨-, hkept⟩ := h.pausing deadline hphase
    exact { h with
      stopped := by simpa [hphase] using h.stopped
      signaled := nofun
      accepting := fun _ t ht => Nat.le_trans (hkept t ht) hover
      pausing := nofun }

theorem Orderly.moves (h : Orderly arrived l) (hmoves : ReflTransGen Move l l') :
    Orderly arrived l' := by
  induction hmoves with
  | refl => exact h
  | tail _ hmove ih => exact ih.move hmove

/-- What happens in a task leaves the numbers of all as they are. -/
theorem numbers_task (l : AcceptLoop) (i : Nat) (event : Connection.Event) :
    (l.step (.task i event)).tasks.map (·.number) = l.tasks.map (·.number) := by
  refine List.ext_getElem? fun j => ?_
  simp only [AcceptLoop.step, List.getElem?_map, List.getElem?_modify]
  by_cases hij : i = j <;> cases l.tasks[j]? <;> simp [hij]

theorem Orderly.arrive (h : Orderly arrived l) (a : Arrival) :
    Orderly (arrived ++ [a]) (l.step (.arrive a)) :=
  { h with arrived := by simp [AcceptLoop.step, h.arrived] }

theorem Orderly.step (h : Orderly arrived l) {e : Event} (hnone : e.arrival? = none) :
    Orderly arrived (l.step e) := by
  cases e with
  | arrive a => cases hnone
  | drain => exact { h with signaled := fun _ => rfl }
  | poll first => exact h.moves (moves_poll l first)
  | elapse ms =>
    have hlater : l.now ≤ (l.step (.elapse ms)).now := Nat.le_add_right _ _
    exact { h with
      past := fun t act ht => Nat.le_trans (h.past t act ht) hlater
      accepting := fun hphase t ht => Nat.le_trans (h.accepting hphase t ht) hlater
      pausing := fun deadline hphase => by
        obtain ⟨hdeadline, hkept⟩ := h.pausing deadline hphase
        exact ⟨Nat.le_trans hdeadline (Nat.add_le_add_right hlater _), hkept⟩ }
  | task i event => exact { h with tasks := (numbers_task l i event).trans h.tasks }

theorem history_move (hmove : Move l l') : l.history <+: l'.history := by
  cases hmove with
  | resume => exact List.prefix_rfl
  | goOn | stop | attempt => exact List.prefix_append _ _
  | handOver | fail => exact (List.prefix_append _ _).trans (List.prefix_append _ _)

theorem history_moves (hmoves : ReflTransGen Move l l') : l.history <+: l'.history := by
  induction hmoves with
  | refl => exact List.prefix_rfl
  | tail _ hmove ih => exact ih.trans (history_move hmove)

theorem history_step (l : AcceptLoop) (e : Event) : l.history <+: (l.step e).history := by
  cases e with
  | poll first => exact history_moves (moves_poll l first)
  | arrive | drain | elapse | task => exact List.prefix_rfl

theorem run_concat (l : AcceptLoop) (events : List Event) (e : Event) :
    l.run (events ++ [e]) = (l.run events).step e := by
  simp [run]

theorem orderly_run (tls draining : Bool) (events : List Event) :
    Orderly (events.filterMap Event.arrival?) (({ tls, draining } : AcceptLoop).run events) := by
  induction events using List.reverseRecOn with
  | nil => exact ⟨rfl, rfl, .nil, nofun, by simp [run], nofun, nofun, nofun⟩
  | append_singleton events e ih =>
    rw [run_concat, List.filterMap_append]
    cases e with
    | arrive a => exact ih.arrive a
    | drain | poll | elapse | task =>
      rw [List.filterMap_cons_none rfl, List.filterMap_nil, List.append_nil]
      exact ih.step rfl

/-- Whether there is something to do but to look at the shutdown signal. -/
def IsReady (l : AcceptLoop) : Prop :=
  match l.phase with
  | .accepting => l.waiting ≠ []
  | .pausing deadline => deadline ≤ l.now
  | .stopped => False

theorem phase_lookAtShutdown_iff (h : l.phase ≠ .stopped) :
    l.lookAtShutdown.phase = .stopped ↔ l.draining = true := by
  rw [lookAtShutdown_eq]
  split
  · rename_i hsignal
    exact iff_of_true rfl hsignal
  · rename_i hquiet
    exact iff_of_false h hquiet

theorem phase_race_iff (first : Branch) {work : AcceptLoop → AcceptLoop × Bool}
    (hphase : l.phase ≠ .stopped)
    (hwork : ∀ v : AcceptLoop, v.phase = l.phase →
      (work v).1.phase ≠ .stopped ∧ (work v).1.draining = v.draining) :
    (l.race first work).phase = .stopped ↔
      l.draining = true ∧ ¬(first = .work ∧ (work l).2 = true) := by
  cases first with
  | work =>
    obtain ⟨hgoesOn, hdraining⟩ := hwork l rfl
    simp only [race]
    cases hready : (work l).2 with
    | true => simpa using hgoesOn
    | false => simp [phase_lookAtShutdown_iff hgoesOn, hdraining]
  | shutdown =>
    simp only [race]
    split
    · rename_i hstopped
      simpa [hstopped] using (phase_lookAtShutdown_iff hphase).mp hstopped
    · rename_i hgoesOn
      have hquiet := mt (phase_lookAtShutdown_iff hphase).mpr hgoesOn
      simpa [hquiet] using (hwork _ (phase_lookAtShutdown hgoesOn)).1

theorem ready_tryAccept (l : AcceptLoop) : l.tryAccept.2 = true ↔ l.waiting ≠ [] := by
  unfold tryAccept
  dsimp only
  split <;> simp_all

theorem ready_resume (l : AcceptLoop) (deadline : Nat) :
    (l.resume deadline).2 = true ↔ deadline ≤ l.now := by
  unfold resume
  split <;> simp_all

/-- A look stops the loop exactly if the signal was given and is looked at: that is, unless there is
something else to do that is looked at first. -/
theorem phase_poll_iff (l : AcceptLoop) (first : Branch) :
    (l.poll first).phase = .stopped ↔
      l.phase = .stopped ∨ l.draining = true ∧ ¬(first = .work ∧ l.IsReady) := by
  unfold poll
  split
  · rename_i hphase
    have hgoesOn : l.phase ≠ .stopped := by simp [hphase]
    rw [phase_race_iff first hgoesOn fun v hv =>
      ⟨phase_tryAccept (hv ▸ hgoesOn), (advances_tryAccept v).draining⟩, ready_tryAccept]
    simp [IsReady, hphase]
  · rename_i deadline hphase
    have hgoesOn : l.phase ≠ .stopped := by simp [hphase]
    rw [phase_race_iff first hgoesOn fun v hv =>
      ⟨phase_resume (hv ▸ hgoesOn) deadline, (advances_resume v deadline).draining⟩, ready_resume]
    simp [IsReady, hphase]
  · rename_i hphase
    simp [hphase]

theorem poll_of_over (first : Branch) {deadline : Nat} (hphase : l.phase = .pausing deadline)
    (hover : deadline ≤ l.now) (hquiet : l.draining = false) :
    ∃ acts, l.poll first = { l with phase := .accepting, history := l.history ++ acts } := by
  cases first with
  | work => exact ⟨[], by simp [poll, hphase, race, resume, hover]⟩
  | shutdown =>
    refine ⟨[(l.now, .lookAtShutdown false)], ?_⟩
    simp [poll, hphase, race, lookAtShutdown_eq, hquiet, resume, hover, note]

theorem history_tryAccept (l : AcceptLoop) :
    ∃ acts, l.tryAccept.1.history = l.history ++ (l.now, .attempt) :: acts := by
  unfold tryAccept
  dsimp only
  split
  · exact ⟨[], rfl⟩
  · rename_i number rest _
    exact ⟨[(l.now, .handOver number)], by simp⟩
  · exact ⟨[(l.now, .failure)], by simp⟩

theorem attempt_of_poll (first : Branch) (hphase : l.phase = .accepting)
    (hquiet : l.draining = false) :
    ∃ acts, (l.poll first).history = l.history ++ acts ∧ (l.now, .attempt) ∈ acts := by
  simp only [poll, hphase]
  cases first with
  | work =>
    obtain ⟨acts, hacts⟩ := history_tryAccept l
    simp only [race]
    split
    · exact ⟨_, hacts, List.mem_cons_self⟩
    · have hstays : l.tryAccept.1.draining = false := (advances_tryAccept l).draining.trans hquiet
      exact ⟨(l.now, .attempt) :: (acts ++ [(l.tryAccept.1.now, .lookAtShutdown false)]),
        by simp [lookAtShutdown_eq, hstays, hacts], List.mem_cons_self⟩
  | shutdown =>
    obtain ⟨acts, hacts⟩ := history_tryAccept (l.note (.lookAtShutdown false))
    refine ⟨(l.now, .lookAtShutdown false) :: (l.now, .attempt) :: acts, ?_, by simp⟩
    simp [race, lookAtShutdown_eq, hquiet, hphase, hacts]

/-- Without a signal a failure is followed by another attempt, as soon as the loop looks twice after a
pause. -/
theorem Orderly.attempts_again (h : Orderly arrived l) (hquiet : l.draining = false)
    {deadline : Nat} (hphase : l.phase = .pausing deadline) (first first' : Branch) :
    ∃ acts, (l.run [.elapse pause, .poll first, .poll first']).history = l.history ++ acts ∧
      (l.now + pause, .attempt) ∈ acts := by
  have hover : deadline ≤ (l.step (.elapse pause)).now := (h.pausing deadline hphase).1
  obtain ⟨acts, hpoll⟩ := poll_of_over (l := l.step (.elapse pause)) first hphase hover hquiet
  obtain ⟨more, hmore, hattempt⟩ := attempt_of_poll (l := (l.step (.elapse pause)).poll first) first'
    (by rw [hpoll]) (by rw [hpoll]; exact hquiet)
  refine ⟨acts ++ more, ?_, List.mem_append_right _ ?_⟩
  · have hhistory : (((l.step (.elapse pause)).poll first).poll first').history =
        l.history ++ acts ++ more := by
      rw [hmore, hpoll]
      rfl
    rw [← List.append_assoc, ← hhistory]
    rfl
  · rw [hpoll] at hattempt
    exact hattempt

/-- Whether two loops are alike but for the task of one connection. -/
structure DifferAt (i : Nat) (l l' : AcceptLoop) : Prop where
  rest : l' = { l with tasks := l'.tasks }
  length : l'.tasks.length = l.tasks.length
  others : ∀ j, j ≠ i → l'.tasks[j]? = l.tasks[j]?

variable {i : Nat}

theorem DifferAt.lookAtShutdown (h : DifferAt i l l') :
    DifferAt i l.lookAtShutdown l'.lookAtShutdown := by
  obtain ⟨hrest, hlength, hothers⟩ := h
  rw [hrest, lookAtShutdown_eq, lookAtShutdown_eq]
  dsimp only
  split
  · exact ⟨rfl, hlength, hothers⟩
  · exact ⟨rfl, hlength, hothers⟩

theorem DifferAt.tryAccept (h : DifferAt i l l') :
    DifferAt i l.tryAccept.1 l'.tryAccept.1 ∧ l'.tryAccept.2 = l.tryAccept.2 := by
  obtain ⟨hrest, hlength, hothers⟩ := h
  rw [hrest]
  unfold AcceptLoop.tryAccept
  dsimp only [waiting_note]
  split
  · exact ⟨⟨rfl, hlength, hothers⟩, rfl⟩
  · refine ⟨⟨rfl, by simp [hlength], fun j hj => ?_⟩, rfl⟩
    simp [List.getElem?_append, hlength, hothers j hj]
  · exact ⟨⟨rfl, hlength, hothers⟩, rfl⟩

theorem DifferAt.resume (h : DifferAt i l l') (deadline : Nat) :
    DifferAt i (l.resume deadline).1 (l'.resume deadline).1 ∧
      (l'.resume deadline).2 = (l.resume deadline).2 := by
  obtain ⟨hrest, hlength, hothers⟩ := h
  rw [hrest]
  unfold AcceptLoop.resume
  dsimp only
  split
  · exact ⟨⟨rfl, hlength, hothers⟩, rfl⟩
  · exact ⟨⟨rfl, hlength, hothers⟩, rfl⟩

theorem DifferAt.phase (h : DifferAt i l l') : l'.phase = l.phase := by rw [h.rest]

theorem DifferAt.race (h : DifferAt i l l') (first : Branch)
    {work : AcceptLoop → AcceptLoop × Bool}
    (hwork : ∀ {v v'}, DifferAt i v v' → DifferAt i (work v).1 (work v').1 ∧
      (work v').2 = (work v).2) :
    DifferAt i (l.race first work) (l'.race first work) := by
  cases first with
  | work =>
    obtain ⟨hdiffer, hready⟩ := hwork h
    simp only [AcceptLoop.race, hready]
    split
    · exact hdiffer
    · exact hdiffer.lookAtShutdown
  | shutdown =>
    have hlook := h.lookAtShutdown
    simp only [AcceptLoop.race, hlook.phase]
    split
    · exact hlook
    · exact (hwork hlook).1

theorem DifferAt.poll (h : DifferAt i l l') (first : Branch) :
    DifferAt i (l.poll first) (l'.poll first) := by
  unfold AcceptLoop.poll
  rw [h.phase]
  split
  · exact h.race first DifferAt.tryAccept
  · exact h.race first fun hv => hv.resume _
  · exact h

theorem DifferAt.step (h : DifferAt i l l') {e : Event} (hother : e.isTask i = false) :
    DifferAt i (l.step e) (l'.step e) := by
  cases e with
  | poll first => exact h.poll first
  | arrive | drain | elapse =>
    obtain ⟨hrest, hlength, hothers⟩ := h
    rw [hrest]
    exact ⟨rfl, hlength, hothers⟩
  | task j event =>
    obtain ⟨hrest, hlength, hothers⟩ := h
    rw [hrest]
    refine ⟨rfl, by simp [AcceptLoop.step, hlength], fun k hk => ?_⟩
    simp [AcceptLoop.step, List.getElem?_modify, hothers k hk]

theorem DifferAt.task (h : DifferAt i l l') {e : Event} (htask : e.isTask i = true) :
    DifferAt i l (l'.step e) := by
  cases e with
  | task j event =>
    obtain rfl : j = i := by simpa [Event.isTask] using htask
    refine ⟨?_, by simp [AcceptLoop.step, h.length], fun k hk => ?_⟩
    · rw [h.rest]
      rfl
    · rw [← h.others k hk]
      simp [AcceptLoop.step, hk.symm]
  | arrive | drain | poll | elapse => cases htask

theorem differAt_run (l : AcceptLoop) (i : Nat) (events : List Event) :
    DifferAt i (l.run (events.filter (!·.isTask i))) (l.run events) := by
  induction events using List.reverseRecOn with
  | nil => exact ⟨rfl, rfl, fun _ _ => rfl⟩
  | append_singleton events e ih =>
    rw [run_concat, List.filter_append]
    -- An event of the task is left out on one side, any other happens on both.
    cases htask : e.isTask i with
    | true => simpa [htask] using ih.task htask
    | false =>
      rw [List.filter_singleton, htask]
      simpa [run_concat] using ih.step htask

theorem released_of_handshake (l : AcceptLoop) {c : Connection} (hc : l.tasks[i]? = some c)
    (hphase : c.phase = .handshaking) (hreceived : c.received = true) :
    (l.step (.task i (.server (.handshake false)))).tasks[i]? =
      some { c with phase := .released } := by
  simp [AcceptLoop.step, hc, Connection.step?, Connection.serverStep?, hphase, hreceived]

/-- No connection has two tasks. -/
theorem Orderly.nodup_tasks (h : Orderly arrived l)
    (hnumbers : (arrived.filterMap Arrival.number?).Nodup) : (l.tasks.map (·.number)).Nodup := by
  rw [h.arrived, List.filterMap_append] at hnumbers
  rw [h.tasks]
  exact (List.nodup_append.mp hnumbers).1

/-- A connection keeps its task, and only what happens in the task changes it. -/
theorem task_kept {c : Connection} (hc : l.tasks[i]? = some c) (e : Event) :
    ∃ c', (l.step e).tasks[i]? = some c' ∧ c'.number = c.number ∧ (e.isTask i = false → c' = c) := by
  obtain hsame | ⟨event, rfl, htask⟩ := getElem?_tasks_step hc e
  · exact ⟨c, hsame, rfl, fun _ => rfl⟩
  · exact ⟨_, htask, c.number_getD_step? _ event, fun hother => by simp [Event.isTask] at hother⟩

/-- Whatever arrives and whenever shutdown begins, and whichever branch is looked at first: the history
of the loop is orderly, and only grows. No connection has two tasks, and each keeps the one that it has,
at the place at which it was accepted. The loop stops with the look that sees the signal and with no
other, be it while it accepts or while it pauses; a failure leads to another attempt after the pause; and
what happens in the task of a connection, such as a handshake that fails, does not show in the loop nor
in another task. -/
theorem acceptance {tls draining : Bool} {events : List Event}
    (h : ({ tls, draining } : AcceptLoop).run events = l) :
    Orderly (events.filterMap Event.arrival?) l ∧
    (∀ e, l.history <+: (l.step e).history) ∧
    (((events.filterMap Event.arrival?).filterMap Arrival.number?).Nodup →
      (l.tasks.map (·.number)).Nodup) ∧
    (∀ e i c, l.tasks[i]? = some c → ∃ c', (l.step e).tasks[i]? = some c' ∧
      c'.number = c.number ∧ (e.isTask i = false → c' = c)) ∧
    (∀ first, (l.poll first).phase = .stopped ↔
      l.phase = .stopped ∨ l.draining = true ∧ ¬(first = .work ∧ l.IsReady)) ∧
    (∀ deadline, l.draining = false → l.phase = .pausing deadline → ∀ first first',
      ∃ acts, (l.run [.elapse pause, .poll first, .poll first']).history = l.history ++ acts ∧
        (l.now + pause, .attempt) ∈ acts) ∧
    ∀ i,
      DifferAt i (({ tls, draining } : AcceptLoop).run (events.filter (!·.isTask i))) l ∧
      ∀ c, l.tasks[i]? = some c → c.phase = .handshaking → c.received = true →
        (l.step (.task i (.server (.handshake false)))).tasks[i]? =
          some { c with phase := .released } := by
  subst h
  have horderly := orderly_run tls draining events
  exact ⟨horderly, history_step _, horderly.nodup_tasks, fun e i c hc => task_kept hc e,
    phase_poll_iff _, fun deadline hquiet hphase => horderly.attempts_again hquiet hphase,
    fun i => ⟨differAt_run _ i events, fun c => released_of_handshake _⟩⟩

end

/-- A run in which two connections are accepted, of which the client of the first has sent something,
and then a failure. -/
def troubledRun : List Event :=
  [.arrive (.connection 4), .arrive (.connection 7), .arrive .failure, .poll .work, .poll .work,
    .task 0 (.client .receive), .poll .work]

theorem acceptance_troubledRun :
    ∃ l, ({ tls := true } : AcceptLoop).run troubledRun = l ∧ l.tasks.map (·.number) = [4, 7] ∧
      (∃ acts, (l.run [.elapse pause, .poll .work, .poll .shutdown]).history = l.history ++ acts ∧
        (100, .attempt) ∈ acts) ∧
      (l.step (.task 0 (.server (.handshake false)))).tasks[0]? =
        some { number := 4, phase := .released, received := true } ∧
      ∃ c, (l.step (.task 0 (.server (.handshake false)))).tasks[1]? = some c ∧ c.number = 7 ∧
        c.phase = .handshaking := by
  obtain ⟨l, hl, hwaiting, hquiet, hphase, htask, hother⟩ : ∃ l,
      ({ tls := true } : AcceptLoop).run troubledRun = l ∧ l.waiting = [] ∧ l.draining = false ∧
      l.phase = .pausing 100 ∧
      l.tasks[0]? = some { number := 4, phase := .handshaking, received := true } ∧
      l.tasks[1]? = some (Connection.accepted true 7) :=
    ⟨_, rfl, by decide, by decide, by decide, by decide, by decide⟩
  obtain ⟨horderly, -, -, hkept, -, hagain, htasks⟩ := acceptance hl
  refine ⟨l, hl, ?_, ?_, (htasks 0).2 _ htask rfl rfl, ?_⟩
  · have harrived := horderly.arrived
    rw [hwaiting, List.append_nil] at harrived
    rw [horderly.tasks, ← harrived]
    decide
  · have hnow : l.now = 0 := by
      subst hl
      decide
    simpa [hnow, pause] using hagain 100 hquiet hphase .work .shutdown
  · obtain ⟨c, hc, -, hsame⟩ := hkept (.task 0 (.server (.handshake false))) 1 _ hother
    obtain rfl := hsame (by decide)
    exact ⟨_, hc, rfl, rfl⟩

end AcceptLoop

end IngressProxy

import IngressProxy.Proxy.AcceptLoop
import Mathlib.Data.List.Basic

namespace IngressProxy

@[simp] theorem Connection.number_accepted (tls : Bool) (number : Nat) :
    (accepted tls number).number = number := rfl

theorem Connection.number_of_step? {draining : Bool} {c c' : Connection} {e : Event}
    (h : c.step? draining e = some c') : c'.number = c.number := by
  unfold step? at h
  split at h
  · cases h
  · cases e with
    | client e =>
      obtain rfl : c.clientStep e = c' := Option.some.inj h
      cases e <;> rfl
    | server e =>
      cases e with
      | handshake | beginRequest | respond | seeDrain | close =>
        simp only [serverStep?, Option.ite_none_right_eq_some, Option.some.injEq] at h
        obtain ⟨-, rfl⟩ := h
        rfl

/-- Nothing that happens on a connection changes its number. -/
@[simp] theorem Connection.number_getD_step? (draining : Bool) (c : Connection) (e : Event) :
    ((c.step? draining e).getD c).number = c.number := by
  cases h : c.step? draining e with
  | none => rfl
  | some c' => exact number_of_step? h

namespace AcceptLoop

/-- What any act but the shutdown signal and those on connections leaves as it is. -/
structure Advances (l l' : AcceptLoop) : Prop where
  tls : l'.tls = l.tls
  draining : l'.draining = l.draining
  tasks : ∃ numbers : List Nat, l'.tasks = l.tasks ++ numbers.map (Connection.accepted l.tls)
  stopped : l'.phase = .stopped → l.phase = .stopped ∨ l.draining = true

namespace Advances

theorem of_eq {l l' : AcceptLoop} (htls : l'.tls = l.tls) (hdraining : l'.draining = l.draining)
    (htasks : l'.tasks = l.tasks)
    (hstopped : l'.phase = .stopped → l.phase = .stopped ∨ l.draining = true) : Advances l l' where
  tls := htls
  draining := hdraining
  tasks := ⟨[], by simp [htasks]⟩
  stopped := hstopped

theorem refl (l : AcceptLoop) : Advances l l := of_eq rfl rfl rfl .inl

theorem trans {a b c : AcceptLoop} (h : Advances a b) (h' : Advances b c) : Advances a c where
  tls := h'.tls.trans h.tls
  draining := h'.draining.trans h.draining
  tasks := by
    obtain ⟨ns, hns⟩ := h.tasks
    obtain ⟨ms, hms⟩ := h'.tasks
    exact ⟨ns ++ ms, by rw [hms, hns, h.tls, List.append_assoc, List.map_append]⟩
  stopped hc := by
    obtain hb | hb := h'.stopped hc
    · exact h.stopped hb
    · exact .inr (h.draining ▸ hb)

end Advances

variable (l : AcceptLoop)

theorem advances_lookAtShutdown : Advances l l.lookAtShutdown := by
  unfold lookAtShutdown
  dsimp only
  split
  · rename_i hdraining
    exact .of_eq rfl rfl rfl fun _ => .inr hdraining
  · exact .of_eq rfl rfl rfl .inl

theorem advances_tryAccept : Advances l l.tryAccept.1 := by
  unfold tryAccept
  dsimp only
  split
  · exact .of_eq rfl rfl rfl .inl
  · rename_i number rest _
    exact ⟨rfl, rfl, ⟨[number], rfl⟩, .inl⟩
  · exact .of_eq rfl rfl rfl nofun

theorem advances_resume (deadline : Nat) : Advances l (l.resume deadline).1 := by
  unfold resume
  split
  · exact .of_eq rfl rfl rfl nofun
  · exact .refl l

theorem advances_race (first : Branch) {work : AcceptLoop → AcceptLoop × Bool}
    (hwork : ∀ l, Advances l (work l).1) : Advances l (l.race first work) := by
  cases first with
  | work =>
    simp only [race]
    split
    · exact hwork l
    · exact (hwork l).trans (advances_lookAtShutdown _)
  | shutdown =>
    simp only [race]
    split
    · exact advances_lookAtShutdown l
    · exact (advances_lookAtShutdown l).trans (hwork _)

theorem advances_poll (first : Branch) : Advances l (l.poll first) := by
  unfold poll
  split
  · exact advances_race l first advances_tryAccept
  · exact advances_race l first fun l => advances_resume l _
  · exact .refl l

/-- What an act does: the signal comes, something happens on a connection, or the loop goes on. -/
theorem step_cases (e : Event) :
    (e = .drain ∧ l.step e = { l with draining := true }) ∨
    (∃ i event, e = .task i event ∧
      l.step e = { l with
        tasks := l.tasks.modify i fun c => (c.step? l.draining event).getD c }) ∨
    (e ≠ .drain ∧ Advances l (l.step e)) := by
  cases e with
  | arrive a => exact .inr (.inr ⟨nofun, .of_eq rfl rfl rfl .inl⟩)
  | drain => exact .inl ⟨rfl, rfl⟩
  | poll first => exact .inr (.inr ⟨nofun, advances_poll l first⟩)
  | elapse ms => exact .inr (.inr ⟨nofun, .of_eq rfl rfl rfl .inl⟩)
  | task i event => exact .inr (.inl ⟨i, event, rfl, rfl⟩)

theorem tls_step (e : Event) : (l.step e).tls = l.tls := by
  obtain ⟨-, h⟩ | ⟨i, event, -, h⟩ | ⟨-, h⟩ := l.step_cases e
  · rw [h]
  · rw [h]
  · exact h.tls

theorem draining_step (e : Event) : (l.step e).draining = (l.draining || e = .drain) := by
  obtain ⟨rfl, h⟩ | ⟨i, event, rfl, h⟩ | ⟨hne, h⟩ := l.step_cases e
  · simp [h]
  · simp [h]
  · simp [h.draining, hne]

/-- The loop ends only after the signal. -/
theorem stopped_of_step {e : Event} (h : (l.step e).phase = .stopped) :
    l.phase = .stopped ∨ l.draining = true := by
  obtain ⟨-, hstep⟩ | ⟨i, event, -, hstep⟩ | ⟨-, hstep⟩ := l.step_cases e
  · exact .inl (by simpa [hstep] using h)
  · exact .inl (by simpa [hstep] using h)
  · exact hstep.stopped h

variable {l}

/-- A loop that has ended does not go on. -/
theorem phase_step_of_stopped (h : l.phase = .stopped) (e : Event) :
    (l.step e).phase = .stopped := by
  cases e with
  | poll first => simp [step, poll, h]
  | _ => exact h

/-- Nothing happens on connections that are released, and a loop that has ended accepts no others. -/
theorem isReleased_step (h : l.isReleased = true) (e : Event) : (l.step e).isReleased = true := by
  simp only [isReleased, Bool.and_eq_true, decide_eq_true_eq, List.all_eq_true] at h ⊢
  obtain ⟨hstopped, htasks⟩ := h
  refine ⟨phase_step_of_stopped hstopped e, ?_⟩
  cases e with
  | poll first => simpa [step, poll, hstopped] using htasks
  | task i event =>
    have hsame : l.tasks.modify i (fun c => (c.step? l.draining event).getD c) = l.tasks := by
      refine List.ext_getElem? fun j => ?_
      rw [List.getElem?_modify]
      cases hj : l.tasks[j]? with
      | none => rfl
      | some c =>
        have hc : c.phase = .released := htasks c (List.mem_of_getElem? hj)
        by_cases hij : i = j <;> simp [hij, Connection.step?, hc]
    simpa [step, hsame] using htasks
  | _ => exact htasks

/-- What holds of a connection that was just accepted and is kept by all that happens on it holds of
every task. -/
theorem forall_tasks_step {p : Connection → Prop}
    (hnew : ∀ number, p (Connection.accepted l.tls number))
    (hkept : ∀ c event c', p c → c.step? l.draining event = some c' → p c')
    (h : ∀ c ∈ l.tasks, p c) (e : Event) : ∀ c ∈ (l.step e).tasks, p c := by
  obtain ⟨-, hstep⟩ | ⟨i, event, -, hstep⟩ | ⟨-, hstep⟩ := l.step_cases e
  · rw [hstep]
    exact h
  · rw [hstep]
    intro c hc
    obtain ⟨j, hj⟩ := List.mem_iff_getElem?.mp hc
    rw [List.getElem?_modify] at hj
    obtain ⟨d, hd, hcd⟩ := Option.map_eq_some_iff.mp hj
    have hpd := h d (List.mem_of_getElem? hd)
    split at hcd
    · cases hevent : d.step? l.draining event with
      | none =>
        obtain rfl : d = c := by simpa [hevent] using hcd
        exact hpd
      | some d' =>
        obtain rfl : d' = c := by simpa [hevent] using hcd
        exact hkept d event d' hpd hevent
    · obtain rfl : d = c := hcd
      exact hpd
  · obtain ⟨numbers, hnumbers⟩ := hstep.tasks
    rw [hnumbers]
    intro c hc
    obtain hc | hc := List.mem_append.mp hc
    · exact h c hc
    · obtain ⟨number, -, rfl⟩ := List.mem_map.mp hc
      exact hnew number

/-- A task keeps its place, and changes only with what happens on its connection. -/
theorem getElem?_tasks_step {i : Nat} {c : Connection} (h : l.tasks[i]? = some c) (e : Event) :
    (l.step e).tasks[i]? = some c ∨
    ∃ event, e = .task i event ∧
      (l.step e).tasks[i]? = some ((c.step? l.draining event).getD c) := by
  obtain ⟨-, hstep⟩ | ⟨j, event, he, hstep⟩ | ⟨-, hstep⟩ := l.step_cases e
  · exact .inl (by rw [hstep]; exact h)
  · rw [hstep, List.getElem?_modify, h]
    by_cases hji : j = i
    · exact .inr ⟨event, hji ▸ he, by simp [hji]⟩
    · exact .inl (by simp [hji])
  · obtain ⟨numbers, hnumbers⟩ := hstep.tasks
    obtain ⟨hlt, -⟩ := List.getElem?_eq_some_iff.mp h
    exact .inl (by rw [hnumbers, List.getElem?_append_left hlt, h])

end AcceptLoop

end IngressProxy

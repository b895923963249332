import Mathlib.Data.List.Induction

namespace IngressProxy

section

variable {σ ε : Type} {step? : σ → ε → Option σ} {s s' t t' : σ} {events : List ε}

/-- The first event of a run leads to a state from which the run goes on. -/
theorem exists_of_foldlM_cons {e : ε} (h : (e :: events).foldlM step? s = some s') :
    ∃ t, step? s e = some t ∧ events.foldlM step? t = some s' :=
  Option.bind_eq_some_iff.mp h

theorem foldlM_concat (step? : σ → ε → Option σ) (s : σ) (events : List ε) (e : ε) :
    (events ++ [e]).foldlM step? s = (events.foldlM step? s).bind (step? · e) := by
  rw [List.foldlM_append]
  congr 1
  funext t
  exact Option.bind_fun_some (step? t e)

/-- What holds at the start and is kept by every event that is possible holds after every run. -/
theorem foldlM_induction (h : events.foldlM step? s = some s') {motive : List ε → σ → Prop}
    (nil : motive [] s)
    (concat : ∀ events t e t', events.foldlM step? s = some t → motive events t →
      step? t e = some t' → motive (events ++ [e]) t') : motive events s' := by
  -- The last event comes off, since the motive is said of the events from the start on.
  induction events using List.reverseRecOn generalizing s' with
  | nil =>
    obtain rfl : s = s' := Option.some.inj h
    exact nil
  | append_singleton events e ih =>
    rw [foldlM_concat] at h
    obtain ⟨t, ht, hstep⟩ := Option.bind_eq_some_iff.mp h
    exact concat events t e s' ht (ih ht) hstep

/-- What is kept by the events of a run holds after it. -/
theorem foldlM_invariant (h : events.foldlM step? s = some s') {p : σ → Prop} (hs : p s)
    (hstep : ∀ t e t', e ∈ events → p t → step? t e = some t' → p t') : p s' := by
  induction events generalizing s with
  | nil =>
    obtain rfl : s = s' := Option.some.inj h
    exact hs
  | cons e events ih =>
    obtain ⟨t, ht, hrest⟩ := exists_of_foldlM_cons h
    exact ih hrest (hstep s e t List.mem_cons_self hs ht)
      fun t e t' he => hstep t e t' (List.mem_cons_of_mem _ he)

/-- What comes later in a run is reached from what came before. -/
theorem exists_foldlM_of_take {k n : Nat} (hkn : k ≤ n) (ht : (events.take k).foldlM step? s = some t)
    (ht' : (events.take n).foldlM step? s = some t') :
    ∃ between : List ε, between.foldlM step? t = some t' := by
  have hsplit : events.take n = events.take k ++ (events.take n).drop k := by
    have hboth := List.take_append_drop k (events.take n)
    rw [List.take_take, Nat.min_eq_left hkn] at hboth
    exact hboth.symm
  rw [hsplit, List.foldlM_append, ht] at ht'
  exact ⟨_, ht'⟩

end

end IngressProxy

import IngressProxy.Proofs.Proxy.Lifecycle
import IngressProxy.Proofs.Proxy.Tasks
import IngressProxy.Proofs.Runs
import IngressProxy.Proxy.Running

namespace IngressProxy

namespace RunningServer

inductive Transition (s : RunningServer) : Event → RunningServer → Prop where
  | task (e : ServerTasks.Event) (tasks : ServerTasks)
      (htasks : ServerTasks.Transition s.tasks e tasks) :
    Transition s (.task e)
      { tasks
        lifecycle :=
          if tasks.server.ready then { s.lifecycle with gate := s.lifecycle.gate.step .set }
          else s.lifecycle }
  | life (e : Lifecycle.Event) (lifecycle : Lifecycle) (hother : e ≠ .update)
      (hlife : Lifecycle.Transition s.lifecycle e lifecycle) :
    Transition s (.life e) { s with lifecycle }

/-- Every act is a transition. -/
theorem transition_of_step? {s s' : RunningServer} {e : Event} (h : s.step? e = some s') :
    Transition s e s' := by
  cases e with
  | task e =>
    obtain ⟨tasks, htasks, rfl⟩ := Option.map_eq_some_iff.mp h
    exact .task e tasks (ServerTasks.transition_of_step? htasks)
  | life e =>
    have hother : e ≠ .update := by
      rintro rfl
      cases h
    have hmap : (s.lifecycle.step? e).map (fun lifecycle => { s with lifecycle }) = some s' := by
      cases e <;> first | exact h | exact absurd rfl hother
    obtain ⟨lifecycle, hlife, rfl⟩ := Option.map_eq_some_iff.mp hmap
    exact .life e lifecycle hother (Lifecycle.transition_of_step? hlife)

/-- The update whose table an act makes active, with its payload. -/
def stored? (s : RunningServer) : Event → Option (Nat × Payload)
  | .task e => s.tasks.stored? e
  | .life _ => none

/-- The server after the first acts of a run. -/
def stateAt? (config : Server.Config) (acts : List Event) (n : Nat) : Option RunningServer :=
  (start config).run? (acts.take n)

/-- Whether an act is the `n`-th of a run, and the server just before it is as given. -/
def ActsAt (config : Server.Config) (acts : List Event) (n : Nat) (e : Event)
    (s : RunningServer) : Prop :=
  acts[n]? = some e ∧ stateAt? config acts n = some s

/-- Whether the `m`-th act of a run makes the table of update `i` active, which has a payload. -/
def Stores (config : Server.Config) (acts : List Event) (m i : Nat) (p : Payload) : Prop :=
  ∃ e s, ActsAt config acts m e s ∧ s.stored? e = some (i, p)

/-- Whether the `n`-th act of a run is one of a task that looks at the active table, and what it
finds. -/
def Loads (config : Server.Config) (acts : List Event) (n : Nat) (e : ServerTasks.Event)
    (table : RoutingTable) : Prop :=
  e.looksAtTable ∧ ∃ s, ActsAt config acts n (.task e) s ∧ s.tasks.server.table = table

def Event.begins (kind : TaskKind) : Event → Bool
  | .task e => e.begins kind
  | .life _ => false

/-- Whether the `n`-th act of a run begins the `i`-th task of a kind. -/
def BeginsAt (acts : List Event) (n : Nat) (kind : TaskKind) (i : Nat) (e : ServerTasks.Event) :
    Prop :=
  acts[n]? = some (.task e) ∧ e.begins kind ∧ (acts.take n).countP (Event.begins kind) = i

/-- Whether the act that begins the `i`-th task of a kind looks at the active table, and what it
finds. -/
def BeginsWith (config : Server.Config) (acts : List Event) (kind : TaskKind) (i : Nat)
    (e : ServerTasks.Event) (table : RoutingTable) : Prop :=
  ∃ n, BeginsAt acts n kind i e ∧ Loads config acts n e table

section

variable {config : Server.Config} {acts : List Event} {s s' : RunningServer} {e e' : Event}

theorem ActsAt.lt_length {n : Nat} (h : ActsAt config acts n e s) : n < acts.length :=
  (List.getElem?_eq_some_iff.mp h.1).1

/-- With one act more, an act is one of those before or the last one. -/
theorem actsAt_concat_iff (hs : (start config).run? acts = some s) {n : Nat} :
    ActsAt config (acts ++ [e]) n e' s' ↔
      ActsAt config acts n e' s' ∨ n = acts.length ∧ e' = e ∧ s' = s := by
  unfold ActsAt stateAt?
  obtain hlt | heq | hgt := Nat.lt_trichotomy n acts.length
  · rw [List.getElem?_append_left hlt, List.take_append_of_le_length (Nat.le_of_lt hlt)]
    simp [Nat.ne_of_lt hlt]
  · subst heq
    rw [List.getElem?_concat_length, List.take_left, List.getElem?_eq_none (Nat.le_refl _), hs]
    simp [eq_comm]
  · have hlen : (acts ++ [e]).length ≤ n := by
      rw [List.length_append]
      exact hgt
    rw [List.getElem?_eq_none hlen, List.getElem?_eq_none (Nat.le_of_lt hgt)]
    simp [Nat.ne_of_gt hgt]

theorem actsAt_take_iff {m n : Nat} :
    ActsAt config (acts.take n) m e s ↔ m < n ∧ ActsAt config acts m e s := by
  unfold ActsAt stateAt?
  by_cases hm : m < n
  · rw [List.getElem?_take_of_lt hm, List.take_take, Nat.min_eq_left (Nat.le_of_lt hm)]
    simp [hm]
  · have hlen : (acts.take n).length ≤ m :=
      Nat.le_trans (List.length_take_le n acts) (Nat.le_of_not_lt hm)
    rw [List.getElem?_eq_none hlen]
    simp [hm]

/-- With one act more, what is stored is what was stored before or what the act stores. -/
theorem stores_concat_iff (hs : (start config).run? acts = some s) {m i : Nat} {p : Payload} :
    Stores config (acts ++ [e]) m i p ↔
      Stores config acts m i p ∨ m = acts.length ∧ s.stored? e = some (i, p) := by
  simp only [Stores, actsAt_concat_iff hs]
  constructor
  · rintro ⟨e', s', hat | ⟨rfl, rfl, rfl⟩, hstored⟩
    · exact .inl ⟨e', s', hat, hstored⟩
    · exact .inr ⟨rfl, hstored⟩
  · rintro (⟨e', s', hat, hstored⟩ | ⟨rfl, hstored⟩)
    · exact ⟨e', s', .inl hat, hstored⟩
    · exact ⟨e, s, .inr ⟨rfl, rfl, rfl⟩, hstored⟩

theorem stores_take_iff {m n i : Nat} {p : Payload} :
    Stores config (acts.take n) m i p ↔ m < n ∧ Stores config acts m i p := by
  simp only [Stores, actsAt_take_iff, and_assoc, exists_and_left]

theorem Stores.lt_length {m i : Nat} {p : Payload} (h : Stores config acts m i p) :
    m < acts.length := by
  obtain ⟨e, s, hat, -⟩ := h
  exact hat.lt_length

theorem Stores.concat {m i : Nat} {p : Payload} (h : Stores config acts m i p)
    (hs : (start config).run? acts = some s) (e : Event) : Stores config (acts ++ [e]) m i p :=
  (stores_concat_iff hs).mpr (.inl h)

theorem Loads.concat {n : Nat} {look : ServerTasks.Event} {table : RoutingTable}
    (h : Loads config acts n look table) (hs : (start config).run? acts = some s) (e : Event) :
    Loads config (acts ++ [e]) n look table := by
  obtain ⟨hlooks, v, hat, htable⟩ := h
  exact ⟨hlooks, v, (actsAt_concat_iff hs).mpr (.inl hat), htable⟩

theorem Loads.last (hs : (start config).run? acts = some s) {look : ServerTasks.Event}
    (hlooks : look.looksAtTable) :
    Loads config (acts ++ [.task look]) acts.length look s.tasks.server.table :=
  ⟨hlooks, s, (actsAt_concat_iff hs).mpr (.inr ⟨rfl, rfl, rfl⟩), rfl⟩

/-- A run has as many tasks of each kind as acts that begin one. -/
theorem count_of_run? (h : (start config).run? acts = some s) (kind : TaskKind) :
    s.tasks.count kind = acts.countP (Event.begins kind) := by
  refine foldlM_induction h (motive := fun acts s =>
    s.tasks.count kind = acts.countP (Event.begins kind)) (by cases kind <;> rfl) ?_
  rintro acts v e v' - hv hstep
  rw [List.countP_append, List.countP_singleton, ← hv]
  cases transition_of_step? hstep with
  | life e => rfl
  | task e tasks htasks => exact ServerTasks.count_of_transition htasks kind

theorem BeginsAt.lt_length {n i : Nat} {kind : TaskKind} {look : ServerTasks.Event}
    (h : BeginsAt acts n kind i look) : n < acts.length :=
  (List.getElem?_eq_some_iff.mp h.1).1

theorem BeginsAt.append {n i : Nat} {kind : TaskKind} {look : ServerTasks.Event}
    (h : BeginsAt acts n kind i look) (more : List Event) :
    BeginsAt (acts ++ more) n kind i look := by
  have hlt := h.lt_length
  obtain ⟨hact, hkind, hcount⟩ := h
  refine ⟨(List.getElem?_append_left hlt).trans hact, hkind, ?_⟩
  rw [List.take_append_of_le_length (Nat.le_of_lt hlt), hcount]

/-- An act that begins a task begins the next one of its kind. -/
theorem BeginsAt.last (hs : (start config).run? acts = some s) {kind : TaskKind}
    {look : ServerTasks.Event} (hkind : look.begins kind) :
    BeginsAt (acts ++ [.task look]) acts.length kind (s.tasks.count kind) look := by
  refine ⟨List.getElem?_concat_length .., hkind, ?_⟩
  rw [List.take_left, count_of_run? hs kind]

theorem BeginsWith.concat {i : Nat} {kind : TaskKind} {look : ServerTasks.Event}
    {table : RoutingTable} (h : BeginsWith config acts kind i look table)
    (hs : (start config).run? acts = some s) (e : Event) :
    BeginsWith config (acts ++ [e]) kind i look table := by
  obtain ⟨n, hbegins, hload⟩ := h
  exact ⟨n, hbegins.append [e], hload.concat hs e⟩

theorem BeginsWith.last (hs : (start config).run? acts = some s) {kind : TaskKind}
    {look : ServerTasks.Event} (hkind : look.begins kind) (hlooks : look.looksAtTable) :
    BeginsWith config (acts ++ [.task look]) kind (s.tasks.count kind) look s.tasks.server.table :=
  ⟨acts.length, .last hs hkind, Loads.last hs hlooks⟩

end

end RunningServer

end IngressProxy

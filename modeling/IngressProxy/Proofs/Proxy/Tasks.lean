import IngressProxy.Proxy.Tasks
import Mathlib.Data.List.Basic

namespace IngressProxy

def UpdateStage.isStored : UpdateStage → Bool
  | .started | .built _ => false
  | .installed | .counted | .returned => true

/-- Whether an answer is the one that a table has. -/
def Lookup.IsFoundIn (t : RoutingTable) : Lookup → Prop
  | .backend host path answer => answer = t.backend host path
  | .certificate name answer => answer = t.certificate name

inductive TaskKind where
  | update
  | request
  | handshake
  | reader

namespace ServerTasks

/-- Whether an act asks the table of a reader, and what it finds there. -/
inductive Event.AsksAt (i : Nat) (t : RoutingTable) : Event → Lookup → Prop where
  | backend (host path : String) :
    AsksAt i t (.findBackend i host path) (.backend host path (t.backend host path))
  | certificate (name : String) :
    AsksAt i t (.findCertificate i name) (.certificate name (t.certificate name))

theorem Event.AsksAt.isFoundIn {i : Nat} {t : RoutingTable} {e : Event} {l : Lookup}
    (h : e.AsksAt i t l) : l.IsFoundIn t := by
  cases h <;> rfl

/-- What an act does, and where it is possible. -/
inductive Transition (s : ServerTasks) : Event → ServerTasks → Prop where
  | update (p : Payload) :
    Transition s (.update p) { s with updates := s.updates ++ [{ payload := p }] }
  | build (i : Nat) (p : Payload) (htask : s.updates[i]? = some ⟨p, .started⟩) :
    Transition s (.advanceUpdate i)
      { s with updates := s.updates.set i ⟨p, .built (RoutingTable.ofPayload p)⟩ }
  | store (i : Nat) (p : Payload) (table : RoutingTable)
      (htask : s.updates[i]? = some ⟨p, .built table⟩) :
    Transition s (.advanceUpdate i)
      { s with
        server := s.server.install table
        updates := s.updates.set i ⟨p, .installed⟩ }
  | count (i : Nat) (p : Payload) (htask : s.updates[i]? = some ⟨p, .installed⟩) :
    Transition s (.advanceUpdate i)
      { s with server := s.server.countUpdate, updates := s.updates.set i ⟨p, .counted⟩ }
  | setReady (i : Nat) (p : Payload) (htask : s.updates[i]? = some ⟨p, .counted⟩) :
    Transition s (.advanceUpdate i)
      { s with server := s.server.setReady, updates := s.updates.set i ⟨p, .returned⟩ }
  | rest (i : Nat) (p : Payload) (htask : s.updates[i]? = some ⟨p, .returned⟩) :
    Transition s (.advanceUpdate i) s
  | request (request : Http.Request) (client : IpAddress) :
    Transition s (.request request client)
      { s with requests := s.requests ++ [{ request, client, table := s.server.table }] }
  | conclude (i : Nat) (reply : Option Http.Response) (task : RequestTask)
      (htask : s.requests[i]? = some task) (hopen : task.answer = none) :
    Transition s (.conclude i reply)
      { s with
        server := s.server.record (answer task reply).1
        requests := s.requests.set i { task with answer := some (answer task reply) } }
  | handshake (hello : ClientHello) :
    Transition s (.handshake hello)
      { s with handshakes := s.handshakes ++ [{ hello, table := s.server.table }] }
  | present (i : Nat) (task : HandshakeTask) (htask : s.handshakes[i]? = some task)
      (hopen : task.answer = none) :
    Transition s (.present i)
      { s with
        handshakes := s.handshakes.set i
          { task with answer := some (Handshake.certificate? task.table task.hello) } }
  | read : Transition s .read { s with readers := s.readers ++ [{ table := s.server.table }] }
  | look (i : Nat) (e : Event) (l : Lookup) (task : ReaderTask) (htask : s.readers[i]? = some task)
      (hlook : e.AsksAt i task.table l) :
    Transition s e
      { s with readers := s.readers.set i { task with lookups := task.lookups ++ [l] } }

/-- Every act is a transition. -/
theorem transition_of_step? {s s' : ServerTasks} {e : Event} (h : s.step? e = some s') :
    Transition s e s' := by
  cases e with
  | update p =>
    obtain rfl : _ = s' := Option.some.inj h
    exact .update p
  | advanceUpdate i =>
    obtain ⟨⟨p, stage⟩, htask, rfl⟩ := Option.map_eq_some_iff.mp h
    cases stage with
    | started => exact .build i p htask
    | built table => exact .store i p table htask
    | installed => exact .count i p htask
    | counted => exact .setReady i p htask
    | returned => exact .rest i p htask
  | request request client =>
    obtain rfl : _ = s' := Option.some.inj h
    exact .request request client
  | conclude i reply =>
    obtain ⟨task, htask, h⟩ := Option.bind_eq_some_iff.mp h
    cases hopen : task.answer with
    | some a => simp [hopen] at h
    | none =>
      obtain rfl : _ = s' := by simpa [hopen] using h
      exact .conclude i reply task htask hopen
  | handshake hello =>
    obtain rfl : _ = s' := Option.some.inj h
    exact .handshake hello
  | present i =>
    obtain ⟨task, htask, h⟩ := Option.bind_eq_some_iff.mp h
    cases hopen : task.answer with
    | some a => simp [hopen] at h
    | none =>
      obtain rfl : _ = s' := by simpa [hopen] using h
      exact .present i task htask hopen
  | read =>
    obtain rfl : _ = s' := Option.some.inj h
    exact .read
  | findBackend i host path =>
    obtain ⟨task, htask, rfl⟩ := Option.map_eq_some_iff.mp h
    exact .look i _ _ task htask (.backend host path)
  | findCertificate i name =>
    obtain ⟨task, htask, rfl⟩ := Option.map_eq_some_iff.mp h
    exact .look i _ _ task htask (.certificate name)

def count (s : ServerTasks) : TaskKind → Nat
  | .update => s.updates.length
  | .request => s.requests.length
  | .handshake => s.handshakes.length
  | .reader => s.readers.length

def Event.begins : TaskKind → Event → Bool
  | .update, .update _ => true
  | .request, .request _ _ => true
  | .handshake, .handshake _ => true
  | .reader, .read => true
  | _, _ => false

theorem count_of_transition {s s' : ServerTasks} {e : Event} (h : Transition s e s')
    (kind : TaskKind) : s'.count kind = s.count kind + if e.begins kind then 1 else 0 := by
  cases h with
  | look i e l task htask hlook => cases hlook <;> cases kind <;> simp [count, Event.begins]
  | _ => cases kind <;> simp [count, Event.begins]

def Event.looksAtTable : Event → Bool
  | .request _ _ | .handshake _ | .read => true
  | _ => false

/-- The update whose table an act makes active, with its payload. -/
def stored? (s : ServerTasks) : Event → Option (Nat × Payload)
  | .advanceUpdate i =>
    match s.updates[i]? with
    | some ⟨p, .built _⟩ => some (i, p)
    | _ => none
  | _ => none

theorem eq_of_stored? {s : ServerTasks} {e : Event} {i : Nat} {p : Payload}
    (h : s.stored? e = some (i, p)) :
    e = .advanceUpdate i ∧ ∃ table, s.updates[i]? = some ⟨p, .built table⟩ := by
  cases e with
  | advanceUpdate j =>
    simp only [stored?] at h
    split at h
    · rename_i q table htask
      obtain ⟨rfl, rfl⟩ : j = i ∧ q = p := by simpa using h
      exact ⟨rfl, table, htask⟩
    · cases h
  | _ => cases h

/-- Whether the tables that were built and are not active yet were built of the payloads of their
updates. -/
def BuildsTables (s : ServerTasks) : Prop :=
  ∀ (i : Nat) p table, s.updates[i]? = some ⟨p, .built table⟩ → table = RoutingTable.ofPayload p

theorem of_getElem?_set {α : Type} {l : List α} {i j : Nat} {x y : α}
    (h : (l.set i x)[j]? = some y) : (i = j ∧ x = y) ∨ l[j]? = some y := by
  by_cases hij : i = j
  · subst hij
    rw [List.getElem?_set_self'] at h
    cases hx : l[i]? with
    | none => simp [hx] at h
    | some z => exact .inl ⟨rfl, by simpa [hx] using h⟩
  · rw [List.getElem?_set_ne hij] at h
    exact .inr h

theorem of_getElem?_concat {α : Type} {l : List α} {j : Nat} {x y : α}
    (h : (l ++ [x])[j]? = some y) : (l.length = j ∧ x = y) ∨ l[j]? = some y := by
  by_cases hlt : j < l.length
  · rw [List.getElem?_append_left hlt] at h
    exact .inr h
  · obtain ⟨hj, hy⟩ : j - l.length = 0 ∧ x = y := by
      rw [List.getElem?_append_right (by omega)] at h
      simpa [List.getElem?_singleton] using h
    exact .inl ⟨by omega, hy⟩

/-- An update begins behind all others, with its payload, and keeps it. Its table is built of that;
and it is active, or was, if it had been before or if the act has made it so. -/
theorem update_of_transition {s s' : ServerTasks} {e : Event} (h : Transition s e s') {j : Nat}
    {task' : UpdateTask} (htask' : s'.updates[j]? = some task') :
    (s.updates.length = j ∧ e = .update task'.payload ∧ task'.stage = .started) ∨
      ∃ task, s.updates[j]? = some task ∧ task.payload = task'.payload ∧
        (∀ table, task'.stage = .built table →
          task.stage = .built table ∨ table = RoutingTable.ofPayload task'.payload) ∧
        (task'.stage.isStored → task.stage.isStored ∨ s.stored? e = some (j, task'.payload)) := by
  cases h with
  | update p =>
    obtain ⟨hlength, rfl⟩ | hold := of_getElem?_concat htask'
    · exact .inl ⟨hlength, rfl, rfl⟩
    · exact .inr ⟨task', hold, rfl, fun _ => .inl, .inl⟩
  | build i p htask =>
    obtain ⟨rfl, rfl⟩ | hold := of_getElem?_set htask'
    · exact .inr ⟨_, htask, rfl, fun _ htable => .inr (by cases htable; rfl), nofun⟩
    · exact .inr ⟨task', hold, rfl, fun _ => .inl, .inl⟩
  | store i p table htask =>
    obtain ⟨rfl, rfl⟩ | hold := of_getElem?_set htask'
    · exact .inr ⟨_, htask, rfl, nofun, fun _ => .inr (by simp [stored?, htask])⟩
    · exact .inr ⟨task', hold, rfl, fun _ => .inl, .inl⟩
  | count i p htask =>
    obtain ⟨rfl, rfl⟩ | hold := of_getElem?_set htask'
    · exact .inr ⟨_, htask, rfl, nofun, .inl⟩
    · exact .inr ⟨task', hold, rfl, fun _ => .inl, .inl⟩
  | setReady i p htask =>
    obtain ⟨rfl, rfl⟩ | hold := of_getElem?_set htask'
    · exact .inr ⟨_, htask, rfl, nofun, .inl⟩
    · exact .inr ⟨task', hold, rfl, fun _ => .inl, .inl⟩
  | rest | request | conclude | handshake | present | read | look =>
    exact .inr ⟨task', htask', rfl, fun _ => .inl, .inl⟩

theorem buildsTables_of_transition {s s' : ServerTasks} {e : Event} (hs : s.BuildsTables)
    (h : Transition s e s') : s'.BuildsTables := by
  intro j p table htask'
  obtain ⟨-, -, hstage⟩ | ⟨⟨p', stage⟩, htask, rfl, htable, -⟩ := update_of_transition h htask'
  · cases hstage
  · obtain rfl | hbuilt := htable table rfl
    · exact hs j p' table htask
    · exact hbuilt

/-- The active table changes with an act that stores one, and then it is that of the payload. -/
theorem table_of_transition {s s' : ServerTasks} {e : Event} (hs : s.BuildsTables)
    (h : Transition s e s') :
    s'.server.table =
      ((s.stored? e).map fun u => RoutingTable.ofPayload u.2).getD s.server.table := by
  cases h with
  | update p => rfl
  | build i p htask => simp [stored?, htask]
  | store i p table htask =>
    obtain rfl := hs i p table htask
    simp [stored?, htask, Server.install]
  | count i p htask => simp [stored?, htask, Server.countUpdate]
  | setReady i p htask => simp [stored?, htask, Server.setReady]
  | rest i p htask => simp [stored?, htask]
  | request | conclude | handshake | present | read => rfl
  | look i e l task htask hlook => cases hlook <;> rfl

/-- A server becomes ready by an update that has stored its table. -/
theorem ready_of_transition {s s' : ServerTasks} {e : Event} (h : Transition s e s')
    (hready : s'.server.ready = true) :
    s.server.ready = true ∨
      ∃ (i : Nat) (task : UpdateTask), s.updates[i]? = some task ∧ task.stage.isStored := by
  cases h with
  | setReady i p htask => exact .inr ⟨i, _, htask, rfl⟩
  | update | build | store | count | rest | request | conclude | handshake | present | read | look =>
    exact .inl hready

/-- A request that is there was there before, or the act begins it, or the act ends it. -/
theorem request_of_transition {s s' : ServerTasks} {e : Event} (h : Transition s e s') {i : Nat}
    {task' : RequestTask} (htask' : s'.requests[i]? = some task') :
    s.requests[i]? = some task' ∨
      (s.requests.length = i ∧ e = .request task'.request task'.client ∧
        task'.table = s.server.table ∧ task'.answer = none) ∨
      ∃ task reply, s.requests[i]? = some task ∧ e = .conclude i reply ∧
        task' = { task with answer := some (answer task reply) } := by
  cases h with
  | request request client =>
    obtain ⟨hlength, rfl⟩ | hold := of_getElem?_concat htask'
    · exact .inr (.inl ⟨hlength, rfl, rfl, rfl⟩)
    · exact .inl hold
  | conclude j reply task htask hopen =>
    obtain ⟨rfl, rfl⟩ | hold := of_getElem?_set htask'
    · exact .inr (.inr ⟨task, reply, htask, rfl, rfl⟩)
    · exact .inl hold
  | update | build | store | count | setReady | rest | handshake | present | read | look =>
    exact .inl htask'

/-- A handshake that is there was there before, or the act begins it, or the act answers it. -/
theorem handshake_of_transition {s s' : ServerTasks} {e : Event} (h : Transition s e s') {i : Nat}
    {task' : HandshakeTask} (htask' : s'.handshakes[i]? = some task') :
    s.handshakes[i]? = some task' ∨
      (s.handshakes.length = i ∧ e = .handshake task'.hello ∧ task'.table = s.server.table ∧
        task'.answer = none) ∨
      ∃ task, s.handshakes[i]? = some task ∧ e = .present i ∧
        task' = { task with answer := some (Handshake.certificate? task.table task.hello) } := by
  cases h with
  | handshake hello =>
    obtain ⟨hlength, rfl⟩ | hold := of_getElem?_concat htask'
    · exact .inr (.inl ⟨hlength, rfl, rfl, rfl⟩)
    · exact .inl hold
  | present j task htask hopen =>
    obtain ⟨rfl, rfl⟩ | hold := of_getElem?_set htask'
    · exact .inr (.inr ⟨task, htask, rfl, rfl⟩)
    · exact .inl hold
  | update | build | store | count | setReady | rest | request | conclude | read | look =>
    exact .inl htask'

/-- A reader that is there was there before, or the act begins it, or the act asks its table. -/
theorem reader_of_transition {s s' : ServerTasks} {e : Event} (h : Transition s e s') {i : Nat}
    {task' : ReaderTask} (htask' : s'.readers[i]? = some task') :
    s.readers[i]? = some task' ∨
      (s.readers.length = i ∧ e = .read ∧ task' = { table := s.server.table }) ∨
      ∃ task l, s.readers[i]? = some task ∧ e.AsksAt i task.table l ∧
        task' = { task with lookups := task.lookups ++ [l] } := by
  cases h with
  | read =>
    obtain ⟨hlength, rfl⟩ | hold := of_getElem?_concat htask'
    · exact .inr (.inl ⟨hlength, rfl, rfl⟩)
    · exact .inl hold
  | look j e l task htask hlook =>
    obtain ⟨rfl, rfl⟩ | hold := of_getElem?_set htask'
    · exact .inr (.inr ⟨task, l, htask, hlook, rfl⟩)
    · exact .inl hold
  | update | build | store | count | setReady | rest | request | conclude | handshake | present =>
    exact .inl htask'

/-- Whether each place of a list is taken still, by what is related to what it held. -/
def KeepsPlaces {α : Type} (r : α → α → Prop) (l l' : List α) : Prop :=
  ∀ (i : Nat) x, l[i]? = some x → ∃ y, l'[i]? = some y ∧ r x y

section

variable {α : Type} {r : α → α → Prop}

theorem keepsPlaces_refl (hr : ∀ x, r x x) (l : List α) : KeepsPlaces r l l :=
  fun _ x hx => ⟨x, hx, hr x⟩

theorem KeepsPlaces.trans (hr : ∀ x y z, r x y → r y z → r x z) {l l' l'' : List α}
    (h : KeepsPlaces r l l') (h' : KeepsPlaces r l' l'') : KeepsPlaces r l l'' := by
  intro i x hx
  obtain ⟨y, hy, hxy⟩ := h i x hx
  obtain ⟨z, hz, hyz⟩ := h' i y hy
  exact ⟨z, hz, hr x y z hxy hyz⟩

theorem keepsPlaces_append (hr : ∀ x, r x x) (l more : List α) : KeepsPlaces r l (l ++ more) := by
  intro i x hx
  have hlt := (List.getElem?_eq_some_iff.mp hx).1
  exact ⟨x, (List.getElem?_append_left hlt).trans hx, hr x⟩

theorem keepsPlaces_set (hr : ∀ x, r x x) {l : List α} {i : Nat} {x y : α} (hx : l[i]? = some x)
    (hxy : r x y) : KeepsPlaces r l (l.set i y) := by
  intro j z hz
  by_cases hij : i = j
  · subst hij
    obtain rfl : x = z := Option.some.inj (hx.symm.trans hz)
    exact ⟨y, List.getElem?_set_self (List.getElem?_eq_some_iff.mp hx).1, hxy⟩
  · exact ⟨z, (List.getElem?_set_ne hij).trans hz, hr z⟩

end

/-- Whether a request is still to be answered from the same table, or has the answer that it had. -/
structure RequestKept (task task' : RequestTask) : Prop where
  request : task'.request = task.request
  client : task'.client = task.client
  table : task'.table = task.table
  answer : ∀ a, task.answer = some a → task'.answer = some a

structure HandshakeKept (task task' : HandshakeTask) : Prop where
  hello : task'.hello = task.hello
  table : task'.table = task.table
  answer : ∀ a, task.answer = some a → task'.answer = some a

structure ReaderKept (task task' : ReaderTask) : Prop where
  table : task'.table = task.table
  lookups : task.lookups <+: task'.lookups

theorem RequestKept.refl (task : RequestTask) : RequestKept task task :=
  ⟨rfl, rfl, rfl, fun _ => id⟩

theorem HandshakeKept.refl (task : HandshakeTask) : HandshakeKept task task :=
  ⟨rfl, rfl, fun _ => id⟩

theorem ReaderKept.refl (task : ReaderTask) : ReaderKept task task := ⟨rfl, List.prefix_rfl⟩

/-- Whether tasks keep what they hold, and the server stays ready. -/
structure Keeps (s s' : ServerTasks) : Prop where
  requests : KeepsPlaces RequestKept s.requests s'.requests
  handshakes : KeepsPlaces HandshakeKept s.handshakes s'.handshakes
  readers : KeepsPlaces ReaderKept s.readers s'.readers
  ready : s.server.ready = true → s'.server.ready = true

theorem Keeps.refl (s : ServerTasks) : s.Keeps s where
  requests := keepsPlaces_refl RequestKept.refl _
  handshakes := keepsPlaces_refl HandshakeKept.refl _
  readers := keepsPlaces_refl ReaderKept.refl _
  ready := id

theorem Keeps.trans {s t u : ServerTasks} (h : s.Keeps t) (h' : t.Keeps u) : s.Keeps u where
  requests := h.requests.trans (fun _ _ _ hxy hyz => {
    request := hyz.request.trans hxy.request
    client := hyz.client.trans hxy.client
    table := hyz.table.trans hxy.table
    answer := fun a ha => hyz.answer a (hxy.answer a ha) }) h'.requests
  handshakes := h.handshakes.trans (fun _ _ _ hxy hyz => {
    hello := hyz.hello.trans hxy.hello
    table := hyz.table.trans hxy.table
    answer := fun a ha => hyz.answer a (hxy.answer a ha) }) h'.handshakes
  readers := h.readers.trans (fun _ _ _ hxy hyz => {
    table := hyz.table.trans hxy.table
    lookups := hxy.lookups.trans hyz.lookups }) h'.readers
  ready := h'.ready ∘ h.ready

theorem keeps_of_transition {s s' : ServerTasks} {e : Event} (h : Transition s e s') :
    s.Keeps s' := by
  have hrefl := Keeps.refl s
  cases h with
  | update | build | store | count => exact { hrefl with }
  | setReady i p => exact { hrefl with ready := fun _ => rfl }
  | rest i p => exact hrefl
  | request request client =>
    exact { hrefl with requests := keepsPlaces_append RequestKept.refl _ _ }
  | conclude i reply task htask hopen =>
    have hkept : RequestKept task { task with answer := some (answer task reply) } :=
      ⟨rfl, rfl, rfl, fun a ha => by simp [hopen] at ha⟩
    exact { hrefl with requests := keepsPlaces_set RequestKept.refl htask hkept }
  | handshake hello =>
    exact { hrefl with handshakes := keepsPlaces_append HandshakeKept.refl _ _ }
  | present i task htask hopen =>
    have hkept : HandshakeKept task
        { task with answer := some (Handshake.certificate? task.table task.hello) } :=
      ⟨rfl, rfl, fun a ha => by simp [hopen] at ha⟩
    exact { hrefl with handshakes := keepsPlaces_set HandshakeKept.refl htask hkept }
  | read => exact { hrefl with readers := keepsPlaces_append ReaderKept.refl _ _ }
  | look i e l task htask =>
    have hkept : ReaderKept task { task with lookups := task.lookups ++ [l] } :=
      ⟨rfl, List.prefix_append _ _⟩
    exact { hrefl with readers := keepsPlaces_set ReaderKept.refl htask hkept }

end ServerTasks

end IngressProxy

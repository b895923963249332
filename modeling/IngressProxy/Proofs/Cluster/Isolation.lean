import IngressProxy.Proofs.Cluster.Reconcile
import IngressProxy.Proofs.Cluster.Store
import IngressProxy.Proofs.Routing.Declarers

namespace IngressProxy

/-- Whether two stores agree on what concerns a host: on the ingresses that declare it, and on the
services and secrets in the namespaces of these. -/
structure Store.AgreeOn (s s' : Store) (host : String) : Prop where
  declarers : ∀ ref i, i.declares host →
    (s.ingresses.get? ref = some i ↔ s'.ingresses.get? ref = some i)
  services : ∀ i ∈ s.listIngresses, i.declares host → ∀ name,
    s.services.get? ⟨i.metadata.nsOrEmpty, name⟩ = s'.services.get? ⟨i.metadata.nsOrEmpty, name⟩
  secrets : ∀ i ∈ s.listIngresses, i.declares host → ∀ name,
    s.secrets.get? ⟨i.metadata.nsOrEmpty, name⟩ = s'.secrets.get? ⟨i.metadata.nsOrEmpty, name⟩

/-- Whether a write is foreign to a host in a store: neither what is written declares the host nor
what it takes the place of. -/
def Store.IsForeignIngress (s : Store) (host : String) (w : ObjectRef × Option Ingress) : Prop :=
  (∀ i ∈ w.2, i.declares host = false) ∧ ∀ i ∈ s.ingresses.get? w.1, i.declares host = false

/-- Whether a namespace is foreign to a host in a store: no ingress there declares the host. -/
def Store.IsForeignSpace (s : Store) (host ns : String) : Prop :=
  ∀ i ∈ s.listIngresses, i.declares host → i.metadata.nsOrEmpty ≠ ns

/-- Whether an operation does nothing that concerns a host in a store. -/
def StoreOp.IsForeign (s : Store) (host : String) : StoreOp → Prop
  | .ingress op => ∀ w ∈ op.writes, s.IsForeignIngress host w
  | .service op => ∀ w ∈ op.writes, s.IsForeignSpace host w.1.ns
  | .secret op => ∀ w ∈ op.writes, s.IsForeignSpace host w.1.ns

instance (s : Store) (host : String) (w : ObjectRef × Option Ingress) :
    Decidable (s.IsForeignIngress host w) :=
  inferInstanceAs (Decidable (_ ∧ _))

instance (s : Store) (host ns : String) : Decidable (s.IsForeignSpace host ns) :=
  inferInstanceAs (Decidable (∀ i ∈ s.listIngresses, _))

instance (s : Store) (host : String) : DecidablePred (StoreOp.IsForeign s host)
  | .ingress op => inferInstanceAs (Decidable (∀ w ∈ op.writes, s.IsForeignIngress host w))
  | .service op => inferInstanceAs (Decidable (∀ w ∈ op.writes, s.IsForeignSpace host w.1.ns))
  | .secret op => inferInstanceAs (Decidable (∀ w ∈ op.writes, s.IsForeignSpace host w.1.ns))

namespace Store

theorem AgreeOn.listIngresses_eq {s s' : Store} {host : String} (h : s.AgreeOn s' host) :
    s.listIngresses.filter (·.declares host) = s'.listIngresses.filter (·.declares host) := by
  rw [listIngresses, List.filter_map, listIngresses, List.filter_map]
  exact congrArg (List.map Prod.snd) (Index.filter_sorted_eq (Ingress.declares · host) h.declarers)

theorem declarers_ofLister (s : Store) (host : String) :
    (Payload.ofLister s.lister).declarers host =
      (s.listIngresses.filter (·.declares host)).map fun i =>
        { ingress := i, servicePorts := Reconciliation.portsOf s.lister i } := by
  rw [Payload.declarers, Reconciliation.ingresses_ofLister, List.filter_map]
  rfl

/-- Stores that agree on what concerns a host are read into payloads that do. -/
theorem AgreeOn.payload {s s' : Store} {host : String} (h : s.AgreeOn s' host) :
    (Payload.ofLister s.lister).AgreeOn (Payload.ofLister s'.lister) host where
  declarers := by
    rw [declarers_ofLister, declarers_ofLister, ← h.listIngresses_eq]
    refine List.map_congr_left fun i hi => ?_
    obtain ⟨hmem, hdeclares⟩ := List.mem_filter.mp hi
    have hports : Reconciliation.portsOf s.lister i = Reconciliation.portsOf s'.lister i :=
      Reconciliation.portsOf_congr (h.services i hmem hdeclares)
    rw [hports]
  certificates e he ref href := by
    rw [declarers_ofLister] at he
    obtain ⟨i, hi, rfl⟩ := List.mem_map.mp he
    obtain ⟨hmem, hdeclares⟩ := List.mem_filter.mp hi
    -- The ingress is in both stores, so in both its secrets are read.
    have hmem' : i ∈ s'.listIngresses := List.mem_of_mem_filter (h.listIngresses_eq ▸ hi)
    have hsecret : s.lister.secret ref = s'.lister.secret ref := by
      have hname := h.secrets i hmem hdeclares ref.name
      rwa [← Ingress.ns_of_mem_secretRefs href] at hname
    rw [Reconciliation.get?_certificates_ofLister, Reconciliation.get?_certificates_ofLister,
      if_pos ⟨i, hmem, href⟩, if_pos ⟨i, hmem', href⟩,
      Reconciliation.readCertificate_congr hsecret]

/-- Foreign operations keep a store in agreement with itself. -/
theorem agreeOn_runAll {s : Store} {host : String} {ops : List StoreOp}
    (h : ∀ op ∈ ops, op.IsForeign s host) : s.AgreeOn (s.runAll ops) host := by
  rw [runAll_eq_foldl_run]
  constructor
  · intro ref i hdeclares
    have hwrites : ∀ w ∈ IndexOp.writesTo ref (ops.filterMap StoreOp.ingress?),
        s.IsForeignIngress host (ref, w) := by
      intro w hw
      obtain ⟨op, hop, hmem⟩ := (IndexOp.mem_writesTo_iff ref _ w).mp hw
      exact h _ (StoreOp.mem_filterMap_ingress?.mp hop) _ hmem
    simp only [Index.get?_foldl_run]
    cases hlast : (IndexOp.writesTo ref (ops.filterMap StoreOp.ingress?)).getLast? with
    | none => rfl
    | some w =>
      -- What is written last does not declare the host, and neither does what was there.
      obtain ⟨hnew, hold⟩ := hwrites w (List.mem_of_getLast? hlast)
      refine iff_of_false (fun hi => ?_) fun hi => ?_
      · simp [hold i hi] at hdeclares
      · simp [hnew i hi] at hdeclares
  · intro i hi hdeclares name
    refine (Index.get?_foldl_run_of_not_mem (fun op hop w hw href => ?_) _).symm
    have hforeign := h _ (StoreOp.mem_filterMap_service?.mp hop) w hw
    exact hforeign i hi hdeclares (by rw [href])
  · intro i hi hdeclares name
    refine (Index.get?_foldl_run_of_not_mem (fun op hop w hw href => ?_) _).symm
    have hforeign := h _ (StoreOp.mem_filterMap_secret?.mp hop) w hw
    exact hforeign i hi hdeclares (by rw [href])

section

variable [AuthorityGrammar] [PatternLanguage]

/-- Stores that agree on what concerns a host route the host alike; and so whatever happens in a store
that does not concern the host leaves its rules, its certificates and its answers as they are. -/
theorem isolation (s : Store) (host : String) :
    let table (s : Store) := RoutingTable.ofPayload (Payload.ofLister s.lister)
    (∀ s' : Store, s.AgreeOn s' host → (table s).AlikeFor (table s') host) ∧
      ∀ ops : List StoreOp, (∀ op ∈ ops, op.IsForeign s host) →
        (table s).AlikeFor (table (s.runAll ops)) host := by
  intro table
  have hagree (s' : Store) (h : s.AgreeOn s' host) : (table s).AlikeFor (table s') host :=
    RoutingTable.alikeFor_of_agreeOn h.payload
  exact ⟨hagree, fun ops h => hagree _ (agreeOn_runAll h)⟩

end

/-- A store with an ingress for one host, to a port of a service by its name. -/
def cafe : Store :=
  let metadata : Metadata := { ns := some "cafe", name := some "tea" }
  let backend : IngressBackend := ⟨some ⟨"tea", some { name := some "http" }⟩⟩
  ({} : Store).runAll [
    .ingress (.apply
      { metadata, rules := [{ host := some "tea.cafe", paths := some [{ backend }] }] }),
    .service (.apply ⟨metadata, [⟨some "http", 8080⟩]⟩)]

/-- What a tenant of another namespace does: an ingress in which nothing is right, a service of the
same name, and a secret that comes and goes. -/
def neighbour : List StoreOp :=
  let metadata : Metadata := { ns := some "annex", name := some "tea" }
  [.ingress (.apply
      { metadata
        defaultBackend := some {}
        rules := [{ host := some "*.cafe", paths := some [{ path := some "(" }] }]
        tls := [⟨["tea.cafe"], some "cert"⟩] }),
    .service (.apply ⟨metadata, [⟨some "http", 9090⟩]⟩),
    .secret (.apply { metadata := { metadata with name := some "cert" } }),
    .secret (.delete ⟨"annex", "cert"⟩)]

theorem isolation_neighbour :
    let table (s : Store) := RoutingTable.ofPayload (Payload.ofLister s.lister)
    (∀ op ∈ neighbour, op.IsForeign cafe "tea.cafe") ∧
      cafe.AgreeOn (cafe.runAll neighbour) "tea.cafe" ∧
      ((table cafe).backend "tea.cafe:8443" "/green").map BackendUrl.render = .ok "http://tea:8080" ∧
      (table (cafe.runAll neighbour)).backend "tea.cafe:8443" "/green" =
        (table cafe).backend "tea.cafe:8443" "/green" := by
  intro table
  have hforeign : ∀ op ∈ neighbour, op.IsForeign cafe "tea.cafe" := by decide +kernel
  have hanswer : ((table cafe).backend "tea.cafe:8443" "/green").map BackendUrl.render =
      .ok "http://tea:8080" := by decide +kernel
  have halike := (isolation cafe "tea.cafe").2 neighbour hforeign
  exact ⟨hforeign, agreeOn_runAll hforeign, hanswer,
    (halike.backend "tea.cafe:8443" "/green" (by decide +kernel)).symm⟩

end Store

end IngressProxy

import IngressProxy.Proofs.Backend.Address
import IngressProxy.Proofs.Backend.Ports
import IngressProxy.Proofs.Cluster.Reconcile
import IngressProxy.Proofs.Routing.Candidates

namespace IngressProxy

/-- The port that a reference of a namespace stands for, said of a store: services that are there
have to declare the name, and port 80 is for those that are not there. -/
def Store.port (s : Store) (ns : String) (ref : BackendRef) : Except BackendFault Int :=
  match ref.port with
  | .number n => .ok n.val.toNat
  | .name name =>
    match s.services.get? ⟨ns, ref.service⟩ with
    | none => .ok 80
    | some service =>
      match service.lastPort? name with
      | none => .error (.unknownPort ref.service name)
      | some n => .ok n

namespace Candidate

/-- The ports known to a candidate of a store are those of the service in the store. -/
theorem get?_servicePorts {store : Store} {c : Candidate}
    (hc : c ∈ (Payload.ofLister store.lister).candidates) {ref : BackendRef}
    (href : BackendRef.ofBackend? c.backend = some ref) :
    c.source.servicePorts.get? ref.service =
      (store.services.get? ⟨c.source.ingress.metadata.nsOrEmpty, ref.service⟩).map
        ServicePorts.ofService := by
  obtain ⟨p, hp, hcp⟩ := List.mem_flatMap.mp hc
  obtain ⟨rfl, hbackend⟩ := IngressPayload.of_mem_candidates hcp
  exact Reconciliation.get?_servicePorts hp (List.mem_filterMap.mpr ⟨_, hbackend, href⟩)

/-- A table resolves the port of a candidate as the store has it. -/
theorem map_resolvePort {store : Store} {c : Candidate}
    (hc : c ∈ (Payload.ofLister store.lister).candidates) {ref : BackendRef}
    (href : BackendRef.ofBackend? c.backend = some ref) :
    (resolvePort c.source.servicePorts ref).map (fun port => (port.toNat : Int)) =
      store.port c.source.ingress.metadata.nsOrEmpty ref := by
  unfold resolvePort Store.port
  cases ref.port with
  | number n => rfl
  | name name =>
    simp only
    rw [get?_servicePorts hc href]
    cases store.services.get? ⟨c.source.ingress.metadata.nsOrEmpty, ref.service⟩ with
    | none => rfl
    | some service =>
      have hport := service.get?_ofService name
      simp only [Option.map_some]
      rw [← hport]
      cases (ServicePorts.ofService service).get? name <;> rfl

variable [AuthorityGrammar] [PatternLanguage]

/-- A rule of a table leads to the port that was resolved for it. -/
theorem resolvePort_of_compile {c : Candidate} {ref : BackendRef}
    (href : BackendRef.ofBackend? c.backend = some ref) {rule : Rule} (h : c.compile = .ok rule) :
    resolvePort c.source.servicePorts ref = .ok rule.url.port.val := by
  obtain ⟨ref', port, href', hport, hurl, -⟩ := Rule.of_compile_eq_ok h
  obtain rfl : ref = ref' := Option.some.inj (href.symm.trans href')
  rw [hport, BackendUrl.port_of_http hurl]

/-- Of the checks of a candidate, only that of its port can miss a port. -/
theorem compile_eq_unknownPort_iff {c : Candidate} {ref : BackendRef}
    (href : BackendRef.ofBackend? c.backend = some ref) (service name : String) :
    c.compile = .error (.backend (.unknownPort service name)) ↔
      resolvePort c.source.servicePorts ref = .error (.unknownPort service name) := by
  rw [compile, Rule.compile_eq_backend_iff href]
  constructor
  · rintro (hport | ⟨port, -, hurl⟩)
    · exact hport
    · exact absurd hurl (BackendUrl.http_ne_unknownPort ref.service port service name)
  · exact .inl

end Candidate

/-- A port is missing exactly if it is named and its service is there, but not with that name. -/
theorem Store.port_eq_unknownPort_iff (store : Store) (ns : String) (ref : BackendRef)
    (service name : String) :
    store.port ns ref = .error (.unknownPort service name) ↔
      ref.service = service ∧ ref.port = .name name ∧
        ∃ s, store.services.get? ⟨ns, ref.service⟩ = some s ∧ s.lastPort? name = none := by
  constructor
  · intro h
    unfold port at h
    cases hport : ref.port with
    | number n => simp [hport] at h
    | name wanted =>
      cases hs : store.services.get? ⟨ns, ref.service⟩ with
      | none => simp [hport, hs] at h
      | some s =>
        cases hl : s.lastPort? wanted with
        | some n => simp [hport, hs, hl] at h
        | none =>
          obtain ⟨hservice, hname⟩ : ref.service = service ∧ wanted = name := by
            simpa [hport, hs, hl] using h
          exact ⟨hservice, by rw [hname], s, rfl, by rw [← hname, hl]⟩
  · rintro ⟨rfl, hport, s, hs, hl⟩
    simp [port, hport, hs, hl]

section

variable [AuthorityGrammar] [PatternLanguage]

/-- A table of a store has, under its hosts and among what it skipped, its candidates only; and each
candidate that refers to a port of a service gets the port that the store has for it. It is skipped
for an unknown port exactly if the service is in the store without that port, and the default port
is for services that are not in the store. -/
theorem TableBuild.port_ofPayload_ofLister (store : Store) :
    let payload := Payload.ofLister store.lister
    (∀ host, (ofPayload payload).rulesUnder host =
      (payload.candidates.filter (·.host = host)).filterMap Candidate.rule?) ∧
    (ofPayload payload).skipped = payload.candidates.filterMap Candidate.skipped? ∧
    ∀ c ∈ payload.candidates, ∀ ref, BackendRef.ofBackend? c.backend = some ref →
      let ns := c.source.ingress.metadata.nsOrEmpty
      (resolvePort c.source.servicePorts ref).map (fun port => (port.toNat : Int)) =
          store.port ns ref ∧
      (∀ rule, c.compile = .ok rule → store.port ns ref = .ok rule.url.port.val.toNat) ∧
      (∀ service name, c.compile = .error (.backend (.unknownPort service name)) ↔
        ref.service = service ∧ ref.port = .name name ∧
          ∃ s, store.services.get? ⟨ns, ref.service⟩ = some s ∧ s.lastPort? name = none) ∧
      (c.source.servicePorts.get? ref.service = none ↔
        store.services.get? ⟨ns, ref.service⟩ = none) := by
  intro payload
  refine ⟨rulesUnder_ofPayload payload, skipped_ofPayload payload, fun c hc ref href => ?_⟩
  have hport := Candidate.map_resolvePort hc href
  refine ⟨hport, fun rule hrule => ?_, fun service name => ?_, ?_⟩
  · rw [← hport, Candidate.resolvePort_of_compile href hrule]
    rfl
  · rw [Candidate.compile_eq_unknownPort_iff href, ← Store.port_eq_unknownPort_iff, ← hport]
    cases resolvePort c.source.servicePorts ref <;> simp [Except.map]
  · rw [Candidate.get?_servicePorts hc href, Option.map_eq_none_iff]

end

/-- An ingress that sends everything to a port of a service, by its name. -/
def teaIngress : Ingress where
  metadata := { ns := some "shop", name := some "tea" }
  defaultBackend := some ⟨some ⟨"tea", some { name := some "http" }⟩⟩

/-- A store of that ingress and its service, which declares the port twice. -/
def teaStore : Store :=
  ({} : Store).runAll [
    .service (.apply ⟨teaIngress.metadata, [⟨some "http", 8080⟩, ⟨some "http", 9090⟩]⟩),
    .ingress (.apply teaIngress)]

theorem TableBuild.port_ofPayload_ofLister_teaStore :
    ∃ c ∈ (Payload.ofLister teaStore.lister).candidates, ∃ ref,
      BackendRef.ofBackend? c.backend = some ref ∧
        (resolvePort c.source.servicePorts ref).map (fun port => (port.toNat : Int)) =
          .ok 9090 := by
  have hlist : teaStore.lister.ingresses = [teaIngress] :=
    congrArg (List.map Prod.snd) (List.mergeSort_singleton _)
  have hpayload := Reconciliation.ingresses_ofLister teaStore.lister
  rw [hlist] at hpayload
  obtain ⟨c, hc, href, hns⟩ : ∃ c ∈ (Payload.ofLister teaStore.lister).candidates,
      BackendRef.ofBackend? c.backend = some ⟨"tea", .name "http"⟩ ∧
        c.source.ingress.metadata.nsOrEmpty = "shop" := by
    rw [Payload.candidates, hpayload]
    exact ⟨_, List.mem_cons_self, rfl, rfl⟩
  refine ⟨c, hc, _, href, ?_⟩
  rw [((port_ofPayload_ofLister teaStore).2.2 c hc _ href).1, hns]
  rfl

end IngressProxy

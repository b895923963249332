import IngressProxy.Proofs.Cluster.Exactness
import IngressProxy.Proofs.Cluster.PortAgreement

namespace IngressProxy

/-- Whether no port has the number zero, to which nothing can be connected. -/
def ServicePorts.NoneZero (ports : ServicePorts) : Prop :=
  ∀ name port, ports.get? name = some port → port ≠ 0

theorem ServicePorts.noneZero_ofService (s : Service) : (ofService s).NoneZero := by
  refine OrderedMap.forall_get?_foldl_insert (fun e he => ?_) nofun
  obtain ⟨declared, -, hport⟩ := List.mem_filterMap.mp he
  obtain ⟨port, -, rfl⟩ := Option.map_eq_some_iff.mp hport
  exact port.property

section

variable {known : OrderedMap String ServicePorts} {ref : BackendRef}

theorem resolvePort_ne_zero
    (hknown : ∀ service ports, known.get? service = some ports → ports.NoneZero) {port : UInt16}
    (h : resolvePort known ref = .ok port) : port ≠ 0 := by
  unfold resolvePort at h
  cases hport : ref.port with
  | number p =>
    obtain rfl : p.val = port := by simpa [hport] using h
    exact p.property
  | name name =>
    cases hs : known.get? ref.service with
    | none =>
      obtain rfl : defaultServicePort = port := by simpa [hport, hs] using h
      decide
    | some ports =>
      cases hn : ports.get? name with
      | none => simp [hport, hs, hn] at h
      | some declared =>
        obtain rfl : declared = port := by simpa [hport, hs, hn] using h
        exact hknown ref.service ports hs name declared hn

/-- The number of a port is not looked at again: a zero that is known is the port. -/
example : resolvePort (.ofList [("tea", .ofList [("http", 0)])]) ⟨"tea", .name "http"⟩ = .ok 0 := by
  decide

/-- All that can be wrong with a port is its name. -/
theorem unknownPort_of_resolvePort {fault : BackendFault}
    (h : resolvePort known ref = .error fault) : ∃ name, fault = .unknownPort ref.service name := by
  unfold resolvePort at h
  cases hport : ref.port with
  | number p => simp [hport] at h
  | name name =>
    cases hs : known.get? ref.service with
    | none => simp [hport, hs] at h
    | some ports =>
      cases hn : ports.get? name with
      | some declared => simp [hport, hs, hn] at h
      | none => exact ⟨name, by simpa [hport, hs, hn] using h.symm⟩

end

theorem IngressBackend.refersTo_of_ofBackend? {b : IngressBackend} {ref : BackendRef}
    (h : BackendRef.ofBackend? b = some ref) : b.RefersTo ref.service :=
  (BackendRef.service_ofBackend?_iff b ref.service).mp (congrArg (Option.map BackendRef.service) h)

theorem Reconciliation.noneZero_servicePorts {lister : Lister} {p : IngressPayload}
    (hp : p ∈ (Payload.ofLister lister).ingresses) :
    ∀ service ports, p.servicePorts.get? service = some ports → ports.NoneZero := by
  intro service ports hget
  rw [ingresses_ofLister] at hp
  obtain ⟨i, -, rfl⟩ := List.mem_map.mp hp
  rw [get?_portsOf, Option.ite_none_right_eq_some] at hget
  obtain ⟨s, -, rfl⟩ := Option.map_eq_some_iff.mp hget.2
  exact ServicePorts.noneZero_ofService s

namespace Candidate

variable [AuthorityGrammar] [PatternLanguage]

/-- A candidate of a cluster has a host and a port, whatever is wrong with its address. -/
theorem fault_of_compile {lister : Lister} {c : Candidate}
    (hc : c ∈ (Payload.ofLister lister).candidates) {fault : BackendFault}
    (h : c.compile = .error (.backend fault)) : fault ≠ .emptyHost ∧ fault ≠ .zeroPort := by
  obtain ⟨p, hp, hcp⟩ := List.mem_flatMap.mp hc
  obtain ⟨rfl, -⟩ := IngressPayload.of_mem_candidates hcp
  cases href : BackendRef.ofBackend? c.backend with
  | none => simp [compile, Rule.compile, href] at h
  | some ref =>
    obtain hport | ⟨port, hport, hhttp⟩ := (Rule.compile_eq_backend_iff href).mp h
    · obtain ⟨name, rfl⟩ := unknownPort_of_resolvePort hport
      simp
    · cases BackendUrl.http_eq_error_iff.mp hhttp with
      | emptyHost hempty => exact absurd hempty (IngressBackend.refersTo_of_ofBackend? href).1
      | zeroPort _ hzero =>
        exact absurd hzero (resolvePort_ne_zero (Reconciliation.noneZero_servicePorts hp) hport)
      | invalidAddress | invalidHost => simp

/-- The host of a rule is the service to which its backend refers. -/
theorem refersTo_of_compile {c : Candidate} {rule : Rule} (h : c.compile = .ok rule) :
    c.backend.RefersTo rule.url.host := by
  obtain ⟨ref, port, href, -, hurl, -⟩ := Rule.of_compile_eq_ok h
  obtain ⟨-, -, -, hhost⟩ := BackendUrl.of_http_eq_ok hurl
  rw [BackendUrl.host, hhost]
  exact IngressBackend.refersTo_of_ofBackend? href

end Candidate

section

variable [AuthorityGrammar] [PatternLanguage]

/-- No rule of a store is skipped for an empty host or for port zero. The rules under a host are those
that its candidates become; and a candidate that becomes a rule refers to a service, whose name is not
empty and is the host of the rule, letter by letter. -/
theorem TableBuild.addresses_ofPayload_ofLister (store : Store) :
    let payload := Payload.ofLister store.lister
    (∀ s ∈ (ofPayload payload).skipped,
      s.fault ≠ .backend .emptyHost ∧ s.fault ≠ .backend .zeroPort) ∧
    (∀ host, (ofPayload payload).rulesUnder host =
      (payload.candidates.filter (·.host = host)).filterMap Candidate.rule?) ∧
    ∀ c ∈ payload.candidates, ∀ rule, c.compile = .ok rule →
      (∃ target, c.backend.service = some target ∧ target.name ≠ "" ∧
        rule.url.host = target.name) ∧
      1 ≤ rule.url.port.val.toNat ∧ rule.url.port.val.toNat ≤ 65535 := by
  intro payload
  refine ⟨fun s hs => ?_, rulesUnder_ofPayload payload, fun c _ rule hrule => ?_⟩
  · rw [skipped_ofPayload] at hs
    obtain ⟨c, hc, hskipped⟩ := List.mem_filterMap.mp hs
    obtain ⟨fault, hcompile, rfl⟩ := Candidate.skipped?_eq_some_iff.mp hskipped
    rw [Candidate.record]
    constructor
    · rintro rfl
      exact (Candidate.fault_of_compile hc hcompile).1 rfl
    · rintro rfl
      exact (Candidate.fault_of_compile hc hcompile).2 rfl
  · obtain ⟨hname, choice, hservice, -⟩ := Candidate.refersTo_of_compile hrule
    exact ⟨⟨_, hservice, hname, rfl⟩, rule.url.port.bounds⟩

end

/-- An ingress with a path to each of two ports of a service. -/
def twoPortIngress : Ingress where
  metadata := { ns := some "shop", name := some "tea" }
  rules := [{ host := some "tea.shop", paths := some [
    { backend := ⟨some ⟨"tea", some { name := some "http" }⟩⟩ },
    { backend := ⟨some ⟨"tea", some { name := some "closed" }⟩⟩ }] }]

/-- A store of that ingress and its service, one port of which has the number zero. -/
def twoPortStore : Store :=
  ({} : Store).runAll [
    .service (.apply ⟨twoPortIngress.metadata, [⟨some "http", 8080⟩, ⟨some "closed", 0⟩]⟩),
    .ingress (.apply twoPortIngress)]

theorem TableBuild.addresses_ofPayload_ofLister_twoPortStore :
    (∃ c ∈ (Payload.ofLister twoPortStore.lister).candidates, ∃ rule, c.compile = .ok rule ∧
      rule.url.host = "tea" ∧ 1 ≤ rule.url.port.val.toNat) ∧
    ∃ s ∈ (ofPayload (Payload.ofLister twoPortStore.lister)).skipped,
      s.fault ≠ .backend .zeroPort ∧ s.fault = .backend (.unknownPort "tea" "closed") := by
  obtain ⟨hfaults, -, hrules⟩ := addresses_ofPayload_ofLister twoPortStore
  have hlist : twoPortStore.lister.ingresses = [twoPortIngress] :=
    congrArg (List.map Prod.snd) (List.mergeSort_singleton _)
  have hpayload := Reconciliation.ingresses_ofLister twoPortStore.lister
  rw [hlist] at hpayload
  constructor
  · obtain ⟨c, hc, rule, hrule, hservice⟩ :
        ∃ c ∈ (Payload.ofLister twoPortStore.lister).candidates, ∃ rule, c.compile = .ok rule ∧
          c.backend.service.map ServiceTarget.name = some "tea" := by
      rw [Payload.candidates, hpayload]
      exact ⟨_, List.mem_cons_self, ⟨none, ⟨⟨"tea:8080"⟩, 8080, by decide⟩⟩, rfl, rfl⟩
    obtain ⟨⟨target, htarget, -, hhost⟩, hport, -⟩ := hrules c hc rule hrule
    rw [htarget] at hservice
    exact ⟨c, hc, rule, hrule, hhost.trans (Option.some.inj hservice), hport⟩
  · obtain ⟨s, hs, hfault⟩ : ∃ s ∈ (ofPayload (Payload.ofLister twoPortStore.lister)).skipped,
        s.fault = .backend (.unknownPort "tea" "closed") := by
      rw [skipped_ofPayload, Payload.candidates, hpayload]
      exact ⟨_, List.mem_singleton_self _, rfl⟩
    exact ⟨s, hs, (hfaults s hs).2, hfault⟩

end IngressProxy

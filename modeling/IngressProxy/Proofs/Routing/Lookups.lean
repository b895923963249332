import IngressProxy.Proofs.Routing.CertificateChoice
import Mathlib.Data.List.Forall2

namespace IngressProxy

/-- Whether two entries of payloads are for one ingress, with ports that are found alike. -/
structure IngressPayload.LooksLike (p q : IngressPayload) : Prop where
  ingress : p.ingress = q.ingress
  servicePorts : ∀ service, (p.servicePorts.get? service).map OrderedMap.get? =
    (q.servicePorts.get? service).map OrderedMap.get?

/-- Whether two payloads have the same ingresses in the same order, with ports and certificates that
are found alike. -/
structure Payload.LooksLike (p q : Payload) : Prop where
  ingresses : List.Forall₂ IngressPayload.LooksLike p.ingresses q.ingresses
  certificates : ∀ ref, p.certificates.get? ref = q.certificates.get? ref

theorem Payload.LooksLike.refl (p : Payload) : p.LooksLike p :=
  ⟨List.forall₂_same.mpr fun _ _ => ⟨rfl, fun _ => rfl⟩, fun _ => rfl⟩

theorem resolvePort_congr {known known' : OrderedMap String ServicePorts} {ref : BackendRef}
    (h : (known.get? ref.service).map OrderedMap.get? =
      (known'.get? ref.service).map OrderedMap.get?) :
    resolvePort known ref = resolvePort known' ref := by
  unfold resolvePort
  cases ref.port with
  | number n => rfl
  | name name =>
    cases hk : known.get? ref.service with
    | none =>
      have hk' : known'.get? ref.service = none := by simpa [hk] using h.symm
      rw [hk']
    | some ports =>
      cases hk' : known'.get? ref.service with
      | none => simp [hk, hk'] at h
      | some ports' =>
        have hports : ports.get? = ports'.get? := by simpa [hk, hk'] using h
        simp only [hports]

namespace IngressPayload

theorem ruleCandidates_map_source {p q : IngressPayload} (h : p.ingress = q.ingress)
    (r : IngressRule) :
    q.ruleCandidates r = (p.ruleCandidates r).map fun c => { c with source := q } := by
  unfold ruleCandidates defaultCandidates
  rw [h]
  cases r.paths <;> simp

/-- The candidates of an ingress differ in where they come from only. -/
theorem candidates_map_source {p q : IngressPayload} (h : p.ingress = q.ingress) :
    q.candidates = p.candidates.map fun c => { c with source := q } := by
  unfold candidates
  rw [h]
  split
  · simp [defaultCandidates, h]
  · rw [List.map_flatMap]
    congr 1
    funext r
    exact ruleCandidates_map_source h r

variable [AuthorityGrammar] [PatternLanguage]

theorem LooksLike.rules_eq {p q : IngressPayload} (h : p.LooksLike q) (host : String) :
    (p.candidates.filter (·.host = host)).filterMap Candidate.rule? =
      (q.candidates.filter (·.host = host)).filterMap Candidate.rule? := by
  rw [candidates_map_source h.ingress, List.filter_map, List.filterMap_map]
  refine List.filterMap_congr fun c hc => ?_
  obtain rfl := (of_mem_candidates (List.mem_of_mem_filter hc)).1
  unfold Candidate.rule? Candidate.compile Rule.compile
  simp only [Function.comp]
  cases BackendRef.ofBackend? c.backend with
  | none => rfl
  | some ref =>
    simp only
    rw [resolvePort_congr (h.servicePorts ref.service)]

end IngressPayload

/-- Ingresses that look alike one by one bring the same, if looking alike does not show in it. -/
theorem IngressPayload.flatMap_eq_of_looksLike {l l' : List IngressPayload}
    (h : List.Forall₂ LooksLike l l') {γ : Type} {f g : IngressPayload → List γ}
    (hfg : ∀ p q, p.LooksLike q → f p = g q) : l.flatMap f = l'.flatMap g := by
  induction h with
  | nil => rfl
  | cons hpq _ ih => rw [List.flatMap_cons, List.flatMap_cons, hfg _ _ hpq, ih]

/-- The secrets that an ingress names, in its own namespace. -/
def Ingress.secretRefs (i : Ingress) : List ObjectRef :=
  i.tls.filterMap fun t => t.secretName.map (⟨i.metadata.nsOrEmpty, ·⟩)

theorem Ingress.ns_of_mem_secretRefs {i : Ingress} {ref : ObjectRef} (h : ref ∈ i.secretRefs) :
    ref.ns = i.metadata.nsOrEmpty := by
  obtain ⟨t, -, ht⟩ := List.mem_filterMap.mp h
  obtain ⟨name, -, rfl⟩ := Option.map_eq_some_iff.mp ht
  rfl

/-- What an ingress offers depends on the secrets that it names only. -/
theorem Ingress.pairsFor_congr {i : Ingress}
    {certificates certificates' : OrderedMap ObjectRef Certificate}
    (h : ∀ ref ∈ i.secretRefs, certificates.get? ref = certificates'.get? ref) (host : String) :
    i.pairsFor certificates host = i.pairsFor certificates' host := by
  have hpairs : i.declaredPairs certificates = i.declaredPairs certificates' := by
    refine List.flatMap_congr fun t ht => ?_
    cases hname : t.secretName with
    | none => rfl
    | some name =>
      have href : ⟨i.metadata.nsOrEmpty, name⟩ ∈ i.secretRefs :=
        List.mem_filterMap.mpr ⟨t, ht, by rw [hname]; rfl⟩
      simp only [Option.bind_some, h _ href]
  rw [pairsFor, hpairs, pairsFor]

namespace RoutingTable

variable [AuthorityGrammar] [PatternLanguage]

/-- The backend of a host is that of the first rule under it, and nothing else. -/
theorem backend_congr {p q : Payload} {host : String}
    (h : (TableBuild.ofPayload p).rulesUnder (Host.stripPort host) =
      (TableBuild.ofPayload q).rulesUnder (Host.stripPort host)) (path : String) :
    (ofPayload p).backend host path = (ofPayload q).backend host path := by
  have hrules : ((ofPayload p).rules.get? (Host.stripPort host)).getD [] =
    ((ofPayload q).rules.get? (Host.stripPort host)).getD [] := h
  rw [backend, backend, hrules]

theorem certificate_congr {p q : Payload} {name : String} (h : p.pairsFor name = q.pairsFor name) :
    (ofPayload p).certificate name = (ofPayload q).certificate name := by
  rw [certificate_eq_firstCovering, certificate_eq_firstCovering, Payload.firstCovering, h,
    Payload.firstCovering]

/-- Tables of payloads that look alike give the same answers. -/
theorem answers_eq_of_looksLike {p q : Payload} (h : p.LooksLike q) :
    (∀ host path, (ofPayload p).backend host path = (ofPayload q).backend host path) ∧
      ∀ name, (ofPayload p).certificate name = (ofPayload q).certificate name := by
  constructor
  · intro host path
    refine backend_congr ?_ path
    rw [TableBuild.rulesUnder_ofPayload, TableBuild.rulesUnder_ofPayload, Payload.candidates,
      Payload.candidates]
    simp only [List.filter_flatMap, List.filterMap_flatMap]
    exact IngressPayload.flatMap_eq_of_looksLike h.ingresses fun a b hab => hab.rules_eq _
  · intro name
    refine certificate_congr (IngressPayload.flatMap_eq_of_looksLike h.ingresses fun a b hab => ?_)
    rw [hab.ingress, Ingress.pairsFor_congr fun ref _ => h.certificates ref]

end RoutingTable

end IngressProxy

import IngressProxy.Proofs.Routing.Lookups

namespace IngressProxy

namespace Ingress

/-- Whether an ingress declares a host: it has a rule for it or, where no host is meant, no rules but
a default destination. -/
def declares (i : Ingress) (host : String) : Bool :=
  (i.rules.any fun r => r.host.getD "" = host) ||
    (host = "" && i.rules.isEmpty && i.defaultBackend.isSome)

theorem declares_of_mem_rules {i : Ingress} {r : IngressRule} (hr : r ∈ i.rules) :
    i.declares (r.host.getD "") = true := by
  have hany : (i.rules.any fun r' => r'.host.getD "" = r.host.getD "") = true :=
    List.any_eq_true.mpr ⟨r, hr, by simp⟩
  simp [declares, hany]

theorem pairsFor_eq_nil {i : Ingress} {host : String} (h : i.declares host = false)
    (certificates : OrderedMap ObjectRef Certificate) : i.pairsFor certificates host = [] := by
  have hnone : (i.rules.filter fun r => r.host.getD "" = host) = [] := by
    refine List.filter_eq_nil_iff.mpr fun r hr hhost => ?_
    obtain rfl : r.host.getD "" = host := by simpa using hhost
    simp [declares_of_mem_rules hr] at h
  rw [pairsFor, hnone, List.flatMap_nil]

end Ingress

namespace IngressPayload

theorem host_of_mem_defaultCandidates {p : IngressPayload} {host : String} {c : Candidate}
    (hc : c ∈ p.defaultCandidates host) : c.host = host ∧ p.ingress.defaultBackend.isSome := by
  obtain ⟨backend, hb, rfl⟩ := List.mem_map.mp hc
  exact ⟨rfl, Option.isSome_of_mem (Option.mem_toList.mp hb)⟩

theorem host_of_mem_ruleCandidates {p : IngressPayload} {r : IngressRule} {c : Candidate}
    (hc : c ∈ p.ruleCandidates r) : c.host = r.host.getD "" := by
  unfold ruleCandidates at hc
  cases hpaths : r.paths with
  | none =>
    rw [hpaths] at hc
    exact (host_of_mem_defaultCandidates hc).1
  | some paths =>
    rw [hpaths] at hc
    obtain ⟨path, -, rfl⟩ := List.mem_map.mp hc
    rfl

/-- An ingress has candidates for the hosts that it declares only. -/
theorem declares_of_mem_candidates {p : IngressPayload} {c : Candidate} (hc : c ∈ p.candidates) :
    p.ingress.declares c.host = true := by
  unfold candidates at hc
  split at hc
  · rename_i hrules
    obtain ⟨hhost, hbackend⟩ := host_of_mem_defaultCandidates hc
    simp [Ingress.declares, hhost, hrules, hbackend]
  · obtain ⟨r, hr, hc⟩ := List.mem_flatMap.mp hc
    rw [host_of_mem_ruleCandidates hc]
    exact Ingress.declares_of_mem_rules hr

end IngressPayload

namespace Payload

/-- The ingresses of a payload that declare a host. -/
def declarers (p : Payload) (host : String) : List IngressPayload :=
  p.ingresses.filter (·.ingress.declares host)

theorem candidates_filter_host (p : Payload) (host : String) :
    p.candidates.filter (·.host = host) =
      (p.declarers host).flatMap fun q => q.candidates.filter (·.host = host) := by
  rw [candidates, List.filter_flatMap, declarers, flatMap_filter_of_eq_nil]
  intro q hq
  refine List.filter_eq_nil_iff.mpr fun c hc hhost => ?_
  obtain rfl : c.host = host := by simpa using hhost
  simp [IngressPayload.declares_of_mem_candidates hc] at hq

theorem pairsFor_eq_flatMap_declarers (p : Payload) (host : String) :
    p.pairsFor host =
      (p.declarers host).flatMap fun q => q.ingress.pairsFor p.certificates host := by
  rw [pairsFor, declarers, flatMap_filter_of_eq_nil]
  exact fun q hq => Ingress.pairsFor_eq_nil hq p.certificates

/-- Whether two payloads agree on what concerns a host: on the ingresses that declare it, and on the
certificates of the secrets that these name. -/
structure AgreeOn (p q : Payload) (host : String) : Prop where
  declarers : p.declarers host = q.declarers host
  certificates : ∀ e ∈ p.declarers host, ∀ ref ∈ e.ingress.secretRefs,
    p.certificates.get? ref = q.certificates.get? ref

theorem AgreeOn.candidates_eq {p q : Payload} {host : String} (h : p.AgreeOn q host) :
    p.candidates.filter (·.host = host) = q.candidates.filter (·.host = host) := by
  rw [candidates_filter_host, candidates_filter_host, h.declarers]

theorem AgreeOn.pairsFor_eq {p q : Payload} {host : String} (h : p.AgreeOn q host) :
    p.pairsFor host = q.pairsFor host := by
  rw [pairsFor_eq_flatMap_declarers, pairsFor_eq_flatMap_declarers, ← h.declarers]
  exact List.flatMap_congr fun e he => Ingress.pairsFor_congr (h.certificates e he) host

end Payload

namespace RoutingTable

variable [AuthorityGrammar] [PatternLanguage]

/-- Whether two tables have the same rules and certificates under a host, and so give the same
answers for it. -/
structure AlikeFor (t t' : RoutingTable) (host : String) : Prop where
  rules : (t.rules.get? host).getD [] = (t'.rules.get? host).getD []
  certificates : (t.certificates.get? host).getD OrderedMap.empty =
    (t'.certificates.get? host).getD OrderedMap.empty
  backend : ∀ requested path, Host.stripPort requested = host →
    t.backend requested path = t'.backend requested path
  certificate : t.certificate host = t'.certificate host

/-- Payloads that agree on what concerns a host have tables that are alike for it. -/
theorem alikeFor_of_agreeOn {p q : Payload} {host : String} (h : p.AgreeOn q host) :
    (ofPayload p).AlikeFor (ofPayload q) host := by
  have hrules : (TableBuild.ofPayload p).rulesUnder host =
      (TableBuild.ofPayload q).rulesUnder host := by
    rw [TableBuild.rulesUnder_ofPayload, TableBuild.rulesUnder_ofPayload, h.candidates_eq]
  have hcertificates : (TableBuild.ofPayload p).certificatesUnder host =
      (TableBuild.ofPayload q).certificatesUnder host := by
    rw [TableBuild.certificatesUnder_ofPayload, TableBuild.certificatesUnder_ofPayload,
      h.pairsFor_eq]
  refine ⟨hrules, hcertificates, fun requested path hhost => ?_, certificate_congr h.pairsFor_eq⟩
  subst hhost
  exact backend_congr hrules path

end RoutingTable

end IngressProxy

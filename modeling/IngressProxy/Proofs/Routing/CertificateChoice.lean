import IngressProxy.Proofs.Routing.Candidates

namespace IngressProxy

/-- Pairs with each key once: in the place of its first pair, with the value of its last one. -/
def firstPlaceLastValue (pairs : List (String × Certificate)) : List (String × Certificate) :=
  (pairs.map Prod.fst).eraseDups.filterMap fun host => (pairs.reverse.lookup host).map (host, ·)

theorem mem_of_mem_firstPlaceLastValue {pairs : List (String × Certificate)}
    {e : String × Certificate} (h : e ∈ firstPlaceLastValue pairs) : e ∈ pairs := by
  obtain ⟨host, -, hval⟩ := List.mem_filterMap.mp h
  obtain ⟨cert, hlook, rfl⟩ := Option.map_eq_some_iff.mp hval
  obtain ⟨front, rest, hsplit, -⟩ := List.lookup_eq_some_iff.mp hlook
  rw [← List.mem_reverse, hsplit]
  simp

namespace Ingress

/-- The certificates that an ingress asks for and that are there, in the order of its TLS blocks and
of their hosts. A secret counts in the namespace of the ingress only. -/
def declaredPairs (i : Ingress) (certificates : OrderedMap ObjectRef Certificate) :
    List (String × Certificate) :=
  i.tls.flatMap fun t =>
    let cert? := t.secretName.bind fun name => certificates.get? ⟨i.metadata.nsOrEmpty, name⟩
    cert?.toList.flatMap fun cert => t.hosts.map (·, cert)

/-- What an ingress offers for a name: each rule for the name offers all its certificates. -/
def pairsFor (i : Ingress) (certificates : OrderedMap ObjectRef Certificate) (name : String) :
    List (String × Certificate) :=
  (i.rules.filter fun r => r.host.getD "" = name).flatMap fun _ => i.declaredPairs certificates

theorem tlsPairs_eq_declaredPairs (i : Ingress) (certificates : OrderedMap ObjectRef Certificate) :
    TableBuild.tlsPairs i certificates = i.declaredPairs certificates := by
  unfold TableBuild.tlsPairs declaredPairs
  congr 1
  funext t
  cases t.secretName with
  | none => rfl
  | some name =>
    cases h : certificates.get? ⟨i.metadata.nsOrEmpty, name⟩ <;> simp [h]

end Ingress

namespace Payload

/-- What is offered for a name, ingress by ingress. -/
def pairsFor (p : Payload) (name : String) : List (String × Certificate) :=
  p.ingresses.flatMap fun q => q.ingress.pairsFor p.certificates name

/-- The certificate for a name, read off what is offered for it. -/
def firstCovering (p : Payload) (name : String) : Except NotFound Certificate :=
  match (firstPlaceLastValue (p.pairsFor name)).find? fun e => Host.covers e.1 name with
  | some e => .ok e.2
  | none => .error .certificate

theorem flatMap_pairsFor_steps (p : Payload) (name : String) :
    p.steps.flatMap (BuildStep.pairsFor name) = p.pairsFor name := by
  have hone (q : IngressPayload) : (q.steps p.certificates).flatMap (BuildStep.pairsFor name) =
      q.ingress.pairsFor p.certificates name := by
    unfold IngressPayload.steps Ingress.pairsFor
    split
    · rename_i hrules
      rw [BuildStep.flatMap_pairsFor_map_rule, List.isEmpty_iff.mp hrules]
      rfl
    · -- Each rule is one offer, which counts if the rule is for the name.
      rw [List.flatMap_assoc]
      induction q.ingress.rules with
      | nil => rfl
      | cons r rules ih =>
        rw [List.flatMap_cons, ih, List.flatMap_cons, BuildStep.flatMap_pairsFor_map_rule,
          List.append_nil, q.ingress.tlsPairs_eq_declaredPairs]
        by_cases hr : r.host.getD "" = name <;> simp [BuildStep.pairsFor, hr]
  rw [steps, pairsFor, List.flatMap_assoc]
  congr 1
  exact funext hone

/-- What is offered for a name comes from a secret that an ingress with a rule for the name asks
for, in the namespace of that ingress. -/
theorem source_of_mem_pairsFor {p : Payload} {name : String} {e : String × Certificate}
    (h : e ∈ p.pairsFor name) :
    ∃ q ∈ p.ingresses, (∃ r ∈ q.ingress.rules, r.host.getD "" = name) ∧
      ∃ t ∈ q.ingress.tls, e.1 ∈ t.hosts ∧ ∃ secret, t.secretName = some secret ∧
        p.certificates.get? ⟨q.ingress.metadata.nsOrEmpty, secret⟩ = some e.2 := by
  obtain ⟨q, hq, hrules⟩ := List.mem_flatMap.mp h
  obtain ⟨r, hr, hpairs⟩ := List.mem_flatMap.mp hrules
  obtain ⟨hr, hname⟩ := List.mem_filter.mp hr
  obtain ⟨t, ht, hcerts⟩ := List.mem_flatMap.mp hpairs
  obtain ⟨cert, hcert, hhosts⟩ := List.mem_flatMap.mp hcerts
  obtain ⟨host, hhost, rfl⟩ := List.mem_map.mp hhosts
  obtain ⟨secret, hsecret, hget⟩ := Option.bind_eq_some_iff.mp (Option.mem_toList.mp hcert)
  exact ⟨q, hq, ⟨r, hr, by simpa using hname⟩, t, ht, hhost, secret, hsecret, hget⟩

/-- An ingress without rules offers nothing. -/
theorem pairsFor_filter_rules (p : Payload) (name : String) :
    pairsFor { p with ingresses := p.ingresses.filter (!·.ingress.rules.isEmpty) } name =
      p.pairsFor name := by
  refine flatMap_filter_of_eq_nil (fun q hq => ?_) p.ingresses
  have hrules : q.ingress.rules = [] := by simpa using hq
  rw [Ingress.pairsFor, hrules]
  rfl

end Payload

section

variable [AuthorityGrammar] [PatternLanguage]

/-- Under each name stand the certificates that are offered for it. -/
theorem TableBuild.certificatesUnder_ofPayload (p : Payload) (name : String) :
    (ofPayload p).certificatesUnder name = OrderedMap.ofList (p.pairsFor name) := by
  rw [ofPayload_eq_foldl, certificatesUnder_foldl, p.flatMap_pairsFor_steps]
  rfl

theorem RoutingTable.certificate_eq_firstCovering (p : Payload) (name : String) :
    (ofPayload p).certificate name = p.firstCovering name := by
  have hcerts : ((ofPayload p).certificates.get? name).getD OrderedMap.empty =
      OrderedMap.ofList (p.pairsFor name) := TableBuild.certificatesUnder_ofPayload p name
  rw [certificate, hcerts, OrderedMap.toList_ofList]
  rfl

/-- A table presents for a name what its payload offers for it first; that comes from a secret in
the namespace of an ingress with a rule for the name, and ingresses without rules do not matter. -/
theorem RoutingTable.certificate_ofPayload (p : Payload) (name : String) :
    (ofPayload p).certificate name = p.firstCovering name ∧
      (∀ cert, (ofPayload p).certificate name = .ok cert →
        ∃ q ∈ p.ingresses, (∃ r ∈ q.ingress.rules, r.host.getD "" = name) ∧
          ∃ t ∈ q.ingress.tls, ∃ secret, t.secretName = some secret ∧
            p.certificates.get? ⟨q.ingress.metadata.nsOrEmpty, secret⟩ = some cert) ∧
      (ofPayload
          { p with ingresses := p.ingresses.filter (!·.ingress.rules.isEmpty) }).certificate name =
        (ofPayload p).certificate name := by
  refine ⟨certificate_eq_firstCovering p name, ?_, ?_⟩
  · intro cert hcert
    rw [certificate_eq_firstCovering, Payload.firstCovering] at hcert
    cases hfind : (firstPlaceLastValue (p.pairsFor name)).find? fun e => Host.covers e.1 name with
    | none => simp [hfind] at hcert
    | some e =>
      have he : e.2 = cert := by simpa [hfind] using hcert
      subst he
      have hmem := mem_of_mem_firstPlaceLastValue (List.mem_of_find?_eq_some hfind)
      obtain ⟨q, hq, hr, t, ht, -, hsecret⟩ := Payload.source_of_mem_pairsFor hmem
      exact ⟨q, hq, hr, t, ht, hsecret⟩
  · rw [certificate_eq_firstCovering, certificate_eq_firstCovering, Payload.firstCovering,
      Payload.pairsFor_filter_rules]
    rfl

end

/-- The certificate in a secret, without any contents. -/
def Certificate.blank (name : String) : Certificate := ⟨name, [], .pkcs8, [], .ed25519⟩

/-- An ingress that declares a host twice, for the certificates of two secrets. -/
def renewedPayload : Payload where
  ingresses := [{ ingress := {
    metadata := { ns := some "shop" }
    rules := [{ host := some "tea.shop" }]
    tls := [⟨["tea.shop", "*.shop"], some "old"⟩, ⟨["tea.shop"], some "new"⟩] } }]
  certificates := .ofList [(⟨"shop", "old"⟩, .blank "old"), (⟨"shop", "new"⟩, .blank "new")]

theorem RoutingTable.certificate_ofPayload_renewedPayload :
    (ofPayload renewedPayload).certificate "tea.shop" = .ok (.blank "new") ∧
      ∃ q ∈ renewedPayload.ingresses, ∃ t ∈ q.ingress.tls, ∃ secret, t.secretName = some secret ∧
        renewedPayload.certificates.get? ⟨q.ingress.metadata.nsOrEmpty, secret⟩ =
          some (.blank "new") := by
  obtain ⟨hfirst, hsource, -⟩ := certificate_ofPayload renewedPayload "tea.shop"
  have hnew := hfirst.trans (show _ = .ok (.blank "new") by decide +kernel)
  obtain ⟨q, hq, -, t, ht, hsecret⟩ := hsource _ hnew
  exact ⟨hnew, q, hq, t, ht, hsecret⟩

end IngressProxy

import IngressProxy.Cluster.Reconcile
import IngressProxy.Proofs.OrderedMap
import IngressProxy.Proofs.Routing.Lookups

namespace IngressProxy

/-- The usable references of an ingress to services, the default one first. -/
def Ingress.references (i : Ingress) : List BackendRef :=
  i.backends.filterMap BackendRef.ofBackend?

namespace Reconciliation

/-- Reading one destination adds the ports of its service, if it is there and not known yet. -/
theorem get?_readBackend (lister : Lister) (ns : String) (acc : PortsRead) (b : IngressBackend)
    (service : String) :
    (readBackend lister ns acc b).1.get? service = (acc.1.get? service).or
      (if (BackendRef.ofBackend? b).map BackendRef.service = some service then
        (lister.service ⟨ns, service⟩).map ServicePorts.ofService else none) := by
  unfold readBackend
  cases BackendRef.ofBackend? b with
  | none => simp
  | some ref =>
    by_cases hs : ref.service = service
    · subst hs
      cases hk : acc.1.get? ref.service with
      | some ports => simp [OrderedMap.contains, hk]
      | none => cases hl : lister.service ⟨ns, ref.service⟩ <;> simp [OrderedMap.contains, hk, hl]
    · have hne : ¬ service = ref.service := fun h => hs h.symm
      by_cases hk : acc.1.contains ref.service
      · simp [hk, hs]
      · cases hl : lister.service ⟨ns, ref.service⟩ <;> simp [hk, hl, hs, hne]

/-- After all destinations, the ports of a service are known if it is referred to and is there. -/
theorem get?_foldl_readBackend (lister : Lister) (ns : String) (bs : List IngressBackend)
    (acc : PortsRead) (service : String) :
    (bs.foldl (readBackend lister ns) acc).1.get? service = (acc.1.get? service).or
      (if service ∈ (bs.filterMap BackendRef.ofBackend?).map BackendRef.service then
        (lister.service ⟨ns, service⟩).map ServicePorts.ofService else none) := by
  have hmem : service ∈ (bs.filterMap BackendRef.ofBackend?).map BackendRef.service ↔
      ∃ b ∈ bs, (BackendRef.ofBackend? b).map BackendRef.service = some service := by
    simp only [List.map_filterMap, List.mem_filterMap]
  rw [OrderedMap.get?_foldl_of_fills (get?_readBackend lister ns)]
  simp only [hmem]

/-- The ports that are read for an ingress. -/
def portsOf (lister : Lister) (i : Ingress) : OrderedMap String ServicePorts :=
  (i.backends.foldl (readBackend lister i.metadata.nsOrEmpty) (OrderedMap.empty, [])).1

theorem get?_portsOf (lister : Lister) (i : Ingress) (service : String) :
    (portsOf lister i).get? service =
      if service ∈ i.references.map BackendRef.service then
        (lister.service ⟨i.metadata.nsOrEmpty, service⟩).map ServicePorts.ofService
      else none := by
  rw [portsOf, get?_foldl_readBackend, OrderedMap.get?_empty, Option.none_or]
  rfl

theorem ingresses_foldl_addIngress (lister : Lister) (is : List Ingress) (r : Reconciliation) :
    (is.foldl (addIngress lister) r).payload.ingresses =
      r.payload.ingresses ++
        is.map fun i => { ingress := i, servicePorts := portsOf lister i } := by
  induction is generalizing r with
  | nil => simp
  | cons i is ih =>
    rw [List.foldl_cons, ih, List.map_cons, ← List.singleton_append, ← List.append_assoc]
    rfl

/-- Every ingress is in the payload, in the order of the list, with the ports read for it. -/
theorem ingresses_ofLister (lister : Lister) :
    (Payload.ofLister lister).ingresses =
      lister.ingresses.map fun i => { ingress := i, servicePorts := portsOf lister i } :=
  ingresses_foldl_addIngress lister lister.ingresses {}

/-- The ports of a service that an ingress refers to are known exactly if the service is there. -/
theorem get?_servicePorts {lister : Lister} {p : IngressPayload}
    (hp : p ∈ (Payload.ofLister lister).ingresses) {ref : BackendRef}
    (href : ref ∈ p.ingress.references) :
    p.servicePorts.get? ref.service =
      (lister.service ⟨p.ingress.metadata.nsOrEmpty, ref.service⟩).map ServicePorts.ofService := by
  rw [ingresses_ofLister] at hp
  obtain ⟨i, -, rfl⟩ := List.mem_map.mp hp
  rw [get?_portsOf, if_pos (List.mem_map_of_mem href)]

/-- Ports are read from the namespace of the ingress only. -/
theorem portsOf_congr {lister lister' : Lister} {i : Ingress}
    (h : ∀ name, lister.service ⟨i.metadata.nsOrEmpty, name⟩ =
      lister'.service ⟨i.metadata.nsOrEmpty, name⟩) : portsOf lister i = portsOf lister' i := by
  have hread : readBackend lister i.metadata.nsOrEmpty =
      readBackend lister' i.metadata.nsOrEmpty := by
    funext acc b
    simp only [readBackend, h]
  rw [portsOf, hread, portsOf]

/-- Reading one TLS block adds the certificate of its secret, if it can be used and is not known. -/
theorem get?_readTls (lister : Lister) (ns : String) (acc : CertificatesRead) (t : IngressTls)
    (ref : ObjectRef) :
    (readTls lister ns acc t).1.get? ref = (acc.1.get? ref).or
      (if t.secretName.map (⟨ns, ·⟩) = some ref then (readCertificate lister ref).toOption
        else none) := by
  unfold readTls
  cases t.secretName with
  | none => simp
  | some name =>
    by_cases hs : (⟨ns, name⟩ : ObjectRef) = ref
    · subst hs
      cases hk : acc.1.get? ⟨ns, name⟩ with
      | some cert => simp [OrderedMap.contains, hk]
      | none =>
        cases hc : readCertificate lister ⟨ns, name⟩ <;>
          simp [OrderedMap.contains, hk, hc, Except.toOption]
    · have hne : ¬ ref = ⟨ns, name⟩ := fun h => hs h.symm
      by_cases hk : acc.1.contains ⟨ns, name⟩
      · simp [hk, hs]
      · cases hc : readCertificate lister ⟨ns, name⟩ <;> simp [hk, hc, hs, hne]

/-- Reading one ingress adds the certificates of the secrets that it names. -/
theorem get?_certificates_addIngress (lister : Lister) (r : Reconciliation) (i : Ingress)
    (ref : ObjectRef) :
    (addIngress lister r i).payload.certificates.get? ref = (r.payload.certificates.get? ref).or
      (if ref ∈ i.secretRefs then (readCertificate lister ref).toOption else none) := by
  simp only [Ingress.secretRefs, List.mem_filterMap]
  exact OrderedMap.get?_foldl_of_fills (get?_readTls lister i.metadata.nsOrEmpty) i.tls _ ref

/-- The certificates are those of the secrets that are named by an ingress and can be used. -/
theorem get?_certificates_ofLister (lister : Lister) (ref : ObjectRef) :
    (Payload.ofLister lister).certificates.get? ref =
      if ∃ i ∈ lister.ingresses, ref ∈ i.secretRefs then (readCertificate lister ref).toOption
      else none := by
  have hfills := OrderedMap.get?_foldl_of_fills
    (m := fun r : Reconciliation => r.payload.certificates)
    (get?_certificates_addIngress lister) lister.ingresses {} ref
  rwa [OrderedMap.get?_empty, Option.none_or] at hfills

/-- A certificate is read from its own secret only. -/
theorem readCertificate_congr {lister lister' : Lister} {ref : ObjectRef}
    (h : lister.secret ref = lister'.secret ref) :
    readCertificate lister ref = readCertificate lister' ref := by
  simp only [readCertificate, h]

end Reconciliation

end IngressProxy

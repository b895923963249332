import IngressProxy.Cluster.Store
import IngressProxy.Routing.Payload

namespace IngressProxy

/-- What keeps a part of an ingress out of the payload. -/
inductive Omission where
  | noServicePort
  | serviceNotFound (service : String)
  | secretNotFound (secret : String)
  | noKeyPair (secret : String)
  | invalidSecret (secret : String) (fault : CertificateFault)
  deriving DecidableEq, Repr

structure Diagnostic where
  ns : String
  ingress : String
  cause : Omission
  deriving DecidableEq, Repr

namespace Omission

def message : Omission → String
  | .noServicePort => "Ignoring backend without a service port"
  | .serviceNotFound _ => "Service not found"
  | .secretNotFound _ => "Secret not found"
  | .noKeyPair _ => "Secret does not contain a TLS key pair"
  | .invalidSecret _ _ => "Invalid TLS secret"

def fields : Omission → List (String × String)
  | .noServicePort => []
  | .serviceNotFound service => [("service", service)]
  | .secretNotFound secret => [("secret", secret)]
  | .noKeyPair secret => [("secret", secret)]
  | .invalidSecret secret fault => [("secret", secret), ("error", fault.message)]

end Omission

def Diagnostic.fields (d : Diagnostic) : List (String × String) :=
  [("ns", d.ns), ("ingress", d.ingress)] ++ d.cause.fields

/-- A payload, with what was left out of it. Services and secrets that are missing or cannot be used
are left out; everything else is not affected by them. -/
structure Reconciliation where
  payload : Payload := {}
  diagnostics : List Diagnostic := []

namespace Reconciliation

/-- The ports read so far for an ingress, and the omissions. -/
abbrev PortsRead := OrderedMap String ServicePorts × List Omission

/-- Reads the ports of the service that a destination names. -/
def readBackend (lister : Lister) (ns : String) (acc : PortsRead) (b : IngressBackend) : PortsRead :=
  match BackendRef.ofBackend? b with
  | none => (acc.1, acc.2 ++ [.noServicePort])
  | some ref =>
    if acc.1.contains ref.service then acc
    else
      match lister.service ⟨ns, ref.service⟩ with
      | some service => (acc.1.insert ref.service (ServicePorts.ofService service), acc.2)
      | none => (acc.1, acc.2 ++ [.serviceNotFound ref.service])

def readCertificate (lister : Lister) (ref : ObjectRef) : Except Omission Certificate :=
  match lister.secret ref with
  | none => .error (.secretNotFound ref.name)
  | some secret =>
    match secret.keyPair? with
    | none => .error (.noKeyPair ref.name)
    | some (cert, key) =>
      match Certificate.ofPem ref.name cert key with
      | .ok certificate => .ok certificate
      | .error fault => .error (.invalidSecret ref.name fault)

/-- The certificates read so far, and the omissions. -/
abbrev CertificatesRead := OrderedMap ObjectRef Certificate × List Omission

/-- Reads the certificate of the secret that a TLS block names. -/
def readTls (lister : Lister) (ns : String) (acc : CertificatesRead) (t : IngressTls) :
    CertificatesRead :=
  match t.secretName with
  | none => acc
  | some name =>
    if acc.1.contains ⟨ns, name⟩ then acc
    else
      match readCertificate lister ⟨ns, name⟩ with
      | .ok certificate => (acc.1.insert ⟨ns, name⟩ certificate, acc.2)
      | .error omission => (acc.1, acc.2 ++ [omission])

/-- Reads one ingress: first the services that it names, then the secrets. -/
def addIngress (lister : Lister) (r : Reconciliation) (i : Ingress) : Reconciliation :=
  let ns := i.metadata.nsOrEmpty
  let ports := i.backends.foldl (readBackend lister ns) (OrderedMap.empty, [])
  let certificates := i.tls.foldl (readTls lister ns) (r.payload.certificates, [])
  { payload := {
      ingresses := r.payload.ingresses ++ [{ ingress := i, servicePorts := ports.1 }]
      certificates := certificates.1 }
    diagnostics := r.diagnostics ++
      (ports.2 ++ certificates.2).map (⟨ns, i.metadata.anyName, ·⟩) }

def ofLister (lister : Lister) : Reconciliation :=
  lister.ingresses.foldl (addIngress lister) {}

end Reconciliation

def Payload.ofLister (lister : Lister) : Payload := (Reconciliation.ofLister lister).payload

end IngressProxy

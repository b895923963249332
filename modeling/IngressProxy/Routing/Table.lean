import IngressProxy.Pattern.Basic
import IngressProxy.Routing.Host
import IngressProxy.Routing.Payload

namespace IngressProxy

/-- A rule of a host. Without a path it matches every path. -/
structure Rule where
  path : Option Pattern
  url : BackendUrl

inductive RuleFault where
  | noServicePort
  | backend (f : BackendFault)
  | path
  deriving DecidableEq, Repr

def RuleFault.message : RuleFault → String
  | .noServicePort => "backend does not reference a service port"
  | .backend f => f.message
  | .path => "invalid path regex"

/-- A rule that was skipped, and where it was declared. -/
structure SkippedRule where
  ns : String
  name : String
  host : String
  path : String
  fault : RuleFault
  deriving DecidableEq, Repr

inductive NotFound where
  | backend
  | certificate
  deriving DecidableEq, Repr

def NotFound.message : NotFound → String
  | .backend => "backend not found"
  | .certificate => "certificate not found"

namespace Rule

/-- The pattern of a path that was declared; the empty path is none. -/
def compilePath [PatternLanguage] (path : Option String) : Except RuleFault (Option Pattern) :=
  match path with
  | none => .ok none
  | some p =>
    if p.isEmpty then .ok none
    else
      match PatternLanguage.compile? p with
      | some pattern => .ok (some pattern)
      | none => .error .path

/-- Compiles a rule: its service, then its port, then its address, then its path are looked at. -/
def compile [AuthorityGrammar] [PatternLanguage] (known : OrderedMap String ServicePorts)
    (path : Option String) (backend : IngressBackend) : Except RuleFault Rule :=
  match BackendRef.ofBackend? backend with
  | none => .error .noServicePort
  | some ref =>
    match resolvePort known ref with
    | .error f => .error (.backend f)
    | .ok port =>
      match BackendUrl.http ref.service port with
      | .error f => .error (.backend f)
      | .ok url => (compilePath path).map fun path => { path, url }

def appliesTo [PatternLanguage] (r : Rule) (path : String) : Bool :=
  match r.path with
  | some p => PatternLanguage.isMatch p path
  | none => true

/-- The text of the path, empty where every path matches. -/
def pathText (r : Rule) : String :=
  match r.path with
  | some p => p.text
  | none => ""

end Rule

/-- A routing table: for each host its rules, and the certificates that may be presented for it,
each under the host for which the ingress declares it. The rules of a host stay in the order in
which they were declared, and the first that matches wins. -/
structure RoutingTable where
  rules : OrderedMap String (List Rule) := OrderedMap.empty
  certificates : OrderedMap String (OrderedMap String Certificate) := OrderedMap.empty

instance : Inhabited RoutingTable := ⟨{}⟩

/-- A table with the rules that were skipped while it was compiled. A rule that is skipped leaves
the others as they are. -/
structure TableBuild where
  table : RoutingTable := {}
  skipped : List SkippedRule := []

namespace TableBuild

variable [AuthorityGrammar] [PatternLanguage]

/-- Appends a rule to those of its host, or notes why it cannot be compiled. -/
def addRule (b : TableBuild) (p : IngressPayload) (host : String) (path : Option String)
    (backend : IngressBackend) : TableBuild :=
  match Rule.compile p.servicePorts path backend with
  | .ok rule =>
    { b with table.rules := b.table.rules.update host fun rules => rules.getD [] ++ [rule] }
  | .error fault =>
    let skipped : SkippedRule := {
      ns := p.ingress.metadata.nsOrEmpty
      name := p.ingress.metadata.anyName
      host
      path := path.getD ""
      fault }
    { b with skipped := b.skipped ++ [skipped] }

/-- Adds the destination that an ingress names for everything else, if it names one. -/
def addDefault (b : TableBuild) (p : IngressPayload) (host : String) : TableBuild :=
  match p.ingress.defaultBackend with
  | some backend => b.addRule p host none backend
  | none => b

/-- The hosts for which an ingress declares certificates, with those that are there. Secrets are
looked for in the namespace of the ingress only. -/
def tlsPairs (i : Ingress) (certificates : OrderedMap ObjectRef Certificate) :
    List (String × Certificate) :=
  i.tls.flatMap fun t =>
    match t.secretName with
    | none => []
    | some name =>
      match certificates.get? ⟨i.metadata.nsOrEmpty, name⟩ with
      | none => []
      | some cert => t.hosts.map (·, cert)

/-- Offers certificates to a host. A host of a certificate keeps its place, and takes the newest
certificate. -/
def offer (b : TableBuild) (host : String) (pairs : List (String × Certificate)) : TableBuild :=
  if pairs.isEmpty then b
  else
    { b with table.certificates := b.table.certificates.update host fun certs =>
        pairs.foldl (fun m e => m.insert e.1 e.2) (certs.getD OrderedMap.empty) }

/-- Adds one rule of an ingress with all its paths; a rule without a block for HTTP leads to the
default destination. -/
def addIngressRule (p : IngressPayload) (pairs : List (String × Certificate)) (b : TableBuild)
    (r : IngressRule) : TableBuild :=
  let host := r.host.getD ""
  let b := b.offer host pairs
  match r.paths with
  | some paths => paths.foldl (fun b path => b.addRule p host path.path path.backend) b
  | none => b.addDefault p host

/-- Adds an ingress. One without rules serves requests without a host only. -/
def addIngress (certificates : OrderedMap ObjectRef Certificate) (b : TableBuild)
    (p : IngressPayload) : TableBuild :=
  if p.ingress.rules.isEmpty then b.addDefault p ""
  else p.ingress.rules.foldl (addIngressRule p (tlsPairs p.ingress certificates)) b

def ofPayload (p : Payload) : TableBuild := p.ingresses.foldl (addIngress p.certificates) {}

end TableBuild

namespace RoutingTable

def ofPayload [AuthorityGrammar] [PatternLanguage] (p : Payload) : RoutingTable :=
  (TableBuild.ofPayload p).table

/-- The backend that serves a path of a host; a port behind the host does not count. -/
def backend [PatternLanguage] (t : RoutingTable) (host path : String) :
    Except NotFound BackendUrl :=
  match ((t.rules.get? (Host.stripPort host)).getD []).find? (·.appliesTo path) with
  | some rule => .ok rule.url
  | none => .error .backend

def certificate (t : RoutingTable) (name : String) : Except NotFound Certificate :=
  match ((t.certificates.get? name).getD OrderedMap.empty).toList.find? fun e =>
      Host.covers e.1 name with
  | some e => .ok e.2
  | none => .error .certificate

def hostCount (t : RoutingTable) : Nat := t.rules.size

def ruleCount (t : RoutingTable) : Nat := (t.rules.values.map List.length).foldr (· + ·) 0

/-- The number of certificates that may be presented, over all hosts. -/
def certificateCount (t : RoutingTable) : Nat :=
  (t.certificates.values.map OrderedMap.size).foldr (· + ·) 0

/-- The rules as lines of a host, a path and a backend. -/
def lines (t : RoutingTable) : List String :=
  t.rules.toList.flatMap fun e => e.2.map fun r => e.1 ++ " " ++ r.pathText ++ " " ++ r.url.render

/-- Whether there is neither a rule nor a certificate. -/
def isEmpty (t : RoutingTable) : Bool := t.rules.isEmpty && t.certificates.isEmpty

end RoutingTable

end IngressProxy

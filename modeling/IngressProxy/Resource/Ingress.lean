import IngressProxy.Resource.Reference

namespace IngressProxy

/-- The port of a service as an ingress writes it down; both fields may be given. -/
structure PortChoice where
  number : Option Int := none
  name : Option String := none
  deriving DecidableEq, Repr, Inhabited

structure ServiceTarget where
  name : String := ""
  port : Option PortChoice := none
  deriving DecidableEq, Repr, Inhabited

/-- A destination that an ingress names. Destinations that are no services have none. -/
structure IngressBackend where
  service : Option ServiceTarget := none
  deriving DecidableEq, Repr, Inhabited

structure IngressPath where
  path : Option String := none
  backend : IngressBackend := {}
  deriving DecidableEq, Repr, Inhabited

/-- A rule for a host. `paths` is missing if the rule has no block for HTTP. -/
structure IngressRule where
  host : Option String := none
  paths : Option (List IngressPath) := none
  deriving DecidableEq, Repr, Inhabited

/-- Hosts that share the certificate of a secret. -/
structure IngressTls where
  hosts : List String := []
  secretName : Option String := none
  deriving DecidableEq, Repr, Inhabited

structure Ingress where
  metadata : Metadata := {}
  defaultBackend : Option IngressBackend := none
  rules : List IngressRule := []
  tls : List IngressTls := []
  deriving DecidableEq, Repr, Inhabited

instance : Located Ingress := ⟨Ingress.metadata⟩

namespace Ingress

/-- Every destination of an ingress: the default one first, then those of the paths as written. -/
def backends (i : Ingress) : List IngressBackend :=
  i.defaultBackend.toList ++
    i.rules.flatMap fun r => (r.paths.getD []).map IngressPath.backend

end Ingress

namespace Resource

def portChoice : Reader PortChoice := fun v => do
  let fields ← Reader.object v
  let number ← field fields "number" (Reader.optional Reader.int32)
  let name ← field fields "name" (Reader.optional Reader.text)
  some { number, name }

def serviceTarget : Reader ServiceTarget := fun v => do
  let fields ← Reader.object v
  let name ← field fields "name" (Reader.orElse "" Reader.text)
  let port ← field fields "port" (Reader.optional portChoice)
  some { name, port }

/-- A reference to another kind of object; it is checked and dropped. -/
def objectReference : Reader Unit := fun v => do
  let fields ← Reader.object v
  let _ ← field fields "apiGroup" (Reader.optional Reader.text)
  let _ ← field fields "kind" (Reader.orElse "" Reader.text)
  let _ ← field fields "name" (Reader.orElse "" Reader.text)
  some ()

def ingressBackend : Reader IngressBackend := fun v => do
  let fields ← Reader.object v
  let _ ← field fields "resource" (Reader.optional objectReference)
  let service ← field fields "service" (Reader.optional serviceTarget)
  some { service }

def ingressPath : Reader IngressPath := fun v => do
  let fields ← Reader.object v
  let backend ← field fields "backend" (Reader.orElse {} ingressBackend)
  let path ← field fields "path" (Reader.optional Reader.text)
  let _ ← field fields "pathType" (Reader.orElse "" Reader.text)
  some { path, backend }

def httpBlock : Reader (List IngressPath) := fun v => do
  let fields ← Reader.object v
  field fields "paths" (Reader.orElse [] (Reader.list ingressPath))

def ingressRule : Reader IngressRule := fun v => do
  let fields ← Reader.object v
  let host ← field fields "host" (Reader.optional Reader.text)
  let paths ← field fields "http" (Reader.optional httpBlock)
  some { host, paths }

def ingressTls : Reader IngressTls := fun v => do
  let fields ← Reader.object v
  let hosts ← field fields "hosts" (Reader.orElse [] (Reader.list Reader.text))
  let secretName ← field fields "secretName" (Reader.optional Reader.text)
  some { hosts, secretName }

/-- Reads an ingress; a missing specification is an empty one. -/
def ingress : Reader Ingress := fun v => do
  let fields ← Reader.object v
  checkKind fields "networking.k8s.io/v1" "Ingress"
  let metadata ← field fields "metadata" metadata
  let spec ← field fields "spec" (Reader.orElse [] Reader.object)
  let defaultBackend ← field spec "defaultBackend" (Reader.optional ingressBackend)
  let _ ← field spec "ingressClassName" (Reader.optional Reader.text)
  let rules ← field spec "rules" (Reader.orElse [] (Reader.list ingressRule))
  let tls ← field spec "tls" (Reader.orElse [] (Reader.list ingressTls))
  some { metadata, defaultBackend, rules, tls }

end Resource

end IngressProxy

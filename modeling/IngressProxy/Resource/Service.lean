import IngressProxy.Resource.Reference

namespace IngressProxy

structure DeclaredPort where
  name : Option String := none
  port : Int := 0
  deriving DecidableEq, Repr, Inhabited

structure Service where
  metadata : Metadata := {}
  ports : List DeclaredPort := []
  deriving DecidableEq, Repr, Inhabited

instance : Located Service := ⟨Service.metadata⟩

namespace Resource

def declaredPort : Reader DeclaredPort := fun v => do
  let fields ← Reader.object v
  let name ← field fields "name" (Reader.optional Reader.text)
  let port ← field fields "port" (Reader.orElse 0 Reader.int32)
  let _ ← field fields "protocol" (Reader.optional Reader.text)
  let _ ← field fields "appProtocol" (Reader.optional Reader.text)
  let _ ← field fields "nodePort" (Reader.optional Reader.int32)
  some { name, port }

/-- Reads a service; a missing specification is an empty one. -/
def service : Reader Service := fun v => do
  let fields ← Reader.object v
  checkKind fields "v1" "Service"
  let metadata ← field fields "metadata" metadata
  let spec ← field fields "spec" (Reader.orElse [] Reader.object)
  let ports ← field spec "ports" (Reader.orElse [] (Reader.list declaredPort))
  some { metadata, ports }

end Resource

end IngressProxy

import IngressProxy.Resource.Decode

namespace IngressProxy

structure Metadata where
  name : Option String := none
  generateName : Option String := none
  ns : Option String := none
  deriving DecidableEq, Repr, Inhabited

namespace Metadata

/-- The name, else the stem from which one was to be made, else the empty text. -/
def anyName (m : Metadata) : String := (m.name <|> m.generateName).getD ""

/-- The namespace, empty if there is none. -/
def nsOrEmpty (m : Metadata) : String := m.ns.getD ""

end Metadata

namespace Resource

def metadata : Reader Metadata := Reader.orElse {} fun v => do
  let fields ← Reader.object v
  let name ← field fields "name" (Reader.optional Reader.text)
  let generateName ← field fields "generateName" (Reader.optional Reader.text)
  let ns ← field fields "namespace" (Reader.optional Reader.text)
  let _ ← field fields "labels" (Reader.optional (Reader.map Reader.text))
  let _ ← field fields "annotations" (Reader.optional (Reader.map Reader.text))
  some { name, generateName, ns }

end Resource

end IngressProxy

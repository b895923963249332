import IngressProxy.Resource.Metadata

namespace IngressProxy

structure ObjectRef where
  ns : String
  name : String
  deriving DecidableEq, Repr

namespace ObjectRef

/-- Namespace and name, parted by a slash. -/
def render (r : ObjectRef) : String := r.ns ++ "/" ++ r.name

/-- Whether a text comes before another one in the order of bytes, or is the same. The order of
characters is that of their UTF-8 bytes. -/
def textLe (a b : String) : Bool := !decide (b < a)

/-- The order of namespaces, then of names. -/
def le (a b : ObjectRef) : Bool :=
  if a.ns = b.ns then textLe a.name b.name else textLe a.ns b.ns

/-- Sorted and without duplicates. -/
def sorted (refs : List ObjectRef) : List ObjectRef := (refs.mergeSort le).eraseDups

end ObjectRef

/-- Where an object is kept, if it has a namespace. -/
def Metadata.ref? (m : Metadata) : Option ObjectRef := m.ns.map (⟨·, m.anyName⟩)

/-- Objects that are found by their metadata. -/
class Located (α : Type) where
  metadata : α → Metadata

end IngressProxy

import IngressProxy.Resource.Ingress

namespace IngressProxy

abbrev Port := { p : UInt16 // p ≠ 0 }

namespace Port

def ofNat? (n : Nat) : Option Port :=
  if n < 65536 then
    if h : UInt16.ofNat n ≠ 0 then some ⟨UInt16.ofNat n, h⟩ else none
  else none

def ofInt? (n : Int) : Option Port := if 0 ≤ n then ofNat? n.toNat else none

end Port

/-- A port of a service: its number, or the name under which the service declares it. -/
inductive PortRef where
  | number (p : Port)
  | name (s : String)
  deriving DecidableEq

structure BackendRef where
  service : String
  port : PortRef
  deriving DecidableEq

def PortRef.render : PortRef → String
  | .number p => toString p.val.toNat
  | .name s => s

namespace BackendRef

/-- Service and port, parted by a colon. -/
def render (b : BackendRef) : String := b.service ++ ":" ++ b.port.render

/-- The port that was chosen, if it is usable. A number counts even where it is out of range, so a
name beside it is not looked at. -/
def portOf? (c : PortChoice) : Option PortRef :=
  match c.number, c.name with
  | some n, _ => (Port.ofInt? n).map .number
  | none, some s => if s.isEmpty then none else some (.name s)
  | none, none => none

/-- The service and port that an ingress names, if it names both in a usable way. -/
def ofBackend? (b : IngressBackend) : Option BackendRef := do
  let service ← b.service
  if service.name.isEmpty then none
  let port ← portOf? (← service.port)
  some { service := service.name, port }

end BackendRef

end IngressProxy

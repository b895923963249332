import IngressProxy.Backend.Url
import IngressProxy.OrderedMap
import IngressProxy.Resource.Service

namespace IngressProxy

/-- The declared ports of one service by name; the empty name is that of unnamed ports. -/
abbrev ServicePorts := OrderedMap String UInt16

namespace ServicePorts

/-- The ports of a service. Ports that cannot be connected to are left out; of equal names the last
one counts. -/
def ofService (s : Service) : ServicePorts :=
  OrderedMap.ofList <| s.ports.filterMap fun p =>
    (Port.ofInt? p.port).map fun n => (p.name.getD "", n.val)

end ServicePorts

/-- The port of backends whose service is not known. -/
def defaultServicePort : UInt16 := 80

/-- The port that a reference stands for, given the ports of the services that are known. A service
that is known must declare the name. -/
def resolvePort (known : OrderedMap String ServicePorts) (b : BackendRef) :
    Except BackendFault UInt16 :=
  match b.port with
  | .number p => .ok p.val
  | .name name =>
    match known.get? b.service with
    | none => .ok defaultServicePort
    | some ports =>
      match ports.get? name with
      | some p => .ok p
      | none => .error (.unknownPort b.service name)

end IngressProxy

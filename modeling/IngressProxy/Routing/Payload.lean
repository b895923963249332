import IngressProxy.Backend.Ports
import IngressProxy.Certificate
import IngressProxy.Resource.Reference

namespace IngressProxy

/-- An ingress with the declared ports of the services that it names, by the name of the service. -/
structure IngressPayload where
  ingress : Ingress
  servicePorts : OrderedMap String ServicePorts := OrderedMap.empty

/-- The state of the cluster, as far as routing needs it. -/
structure Payload where
  ingresses : List IngressPayload := []
  certificates : OrderedMap ObjectRef Certificate := OrderedMap.empty

end IngressProxy

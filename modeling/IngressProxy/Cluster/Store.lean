import IngressProxy.Cluster.Index
import IngressProxy.Resource.Ingress
import IngressProxy.Resource.Secret
import IngressProxy.Resource.Service

namespace IngressProxy

/-- The state of the cluster as it was last observed. -/
structure Store where
  ingresses : Index Ingress := {}
  services : Index Service := {}
  secrets : Index Secret := {}

instance : Inhabited Store := ⟨{}⟩

inductive StoreOp where
  | ingress (op : IndexOp Ingress)
  | service (op : IndexOp Service)
  | secret (op : IndexOp Secret)

/-- What can be read of a cluster: its ingresses in order, and single services and secrets. -/
structure Lister where
  ingresses : List Ingress
  service : ObjectRef → Option Service
  secret : ObjectRef → Option Secret

namespace Store

def run (s : Store) : StoreOp → Store
  | .ingress op => { s with ingresses := s.ingresses.run op }
  | .service op => { s with services := s.services.run op }
  | .secret op => { s with secrets := s.secrets.run op }

def runAll (s : Store) (ops : List StoreOp) : Store := ops.foldl run s

/-- The ingresses, ordered by namespace and name. -/
def listIngresses (s : Store) : List Ingress := s.ingresses.sorted.map Prod.snd

def lister (s : Store) : Lister where
  ingresses := s.listIngresses
  service := s.services.get?
  secret := s.secrets.get?

end Store

end IngressProxy

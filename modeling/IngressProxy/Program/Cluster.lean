import IngressProxy.Watch.Feeds

namespace IngressProxy

namespace Kind

def all : List Kind := [.ingress, .service, .secret]

/-- The path under which the objects of a kind are found. -/
def path : Kind → String
  | .ingress => "/apis/networking.k8s.io/v1/ingresses"
  | .service => "/api/v1/services"
  | .secret => "/api/v1/secrets"

/-- Which objects of a kind are asked for, as it is written in a request. Of the secrets these are
only those that hold key pairs. -/
def selector : Kind → String
  | .secret => "fieldSelector=type%3Dkubernetes.io%2Ftls"
  | _ => ""

end Kind

/-- What is asked for: the objects that there are, or the changes from then on. -/
inductive ClusterVerb where
  | list
  | watch
  deriving DecidableEq, Repr

structure ClusterRequest where
  kind : Kind
  verb : ClusterVerb
  deriving DecidableEq, Repr

def ClusterRequest.render (r : ClusterRequest) : String :=
  r.kind.path ++ (match r.verb with
    | .list => " list "
    | .watch => " watch ") ++ r.kind.selector

structure ClusterObjects where
  ingresses : List Ingress := []
  services : List Service := []
  secrets : List Secret := []

def Secret.isTls (s : Secret) : Bool := s.type = some Secret.tlsType

/-- Whether an event is about an object that is asked for. -/
def ClusterEvent.isSelected : ClusterEvent → Bool
  | .secret (.apply s) | .secret (.delete s) | .secret (.initApply s) => s.isTls
  | _ => true

def FeedEvent.listing {α : Type} (xs : List α) : List (FeedEvent α) :=
  [.init] ++ xs.map .initApply ++ [.initDone]

def ClusterObjects.events (c : ClusterObjects) : List ClusterEvent :=
  ((FeedEvent.listing c.ingresses).map ClusterEvent.ingress ++
    (FeedEvent.listing c.services).map ClusterEvent.service ++
    (FeedEvent.listing c.secrets).map ClusterEvent.secret).filter ClusterEvent.isSelected

/-- Reads a change of an object: one that was deleted, or was added or changed otherwise. -/
def FeedEvent.ofChange? {α : Type} (r : Resource.Reader α) (change : String) (object : Json) :
    Option (FeedEvent α) :=
  (r object).map fun x => if change = "DELETED" then .delete x else .apply x

/-- Reads an event of a watch: what has changed, and how. The object says of what kind it is. -/
def ClusterEvent.ofWatch? (v : Json) : Option ClusterEvent := do
  let fields ← Resource.Reader.object v
  let change ← Resource.field fields "type" Resource.Reader.text
  let object ← fields.lookup "object"
  match object.field? "kind" with
  | some (.text "Ingress") => (FeedEvent.ofChange? Resource.ingress change object).map .ingress
  | some (.text "Service") => (FeedEvent.ofChange? Resource.service change object).map .service
  | some (.text "Secret") => (FeedEvent.ofChange? Resource.secret change object).map .secret
  | _ => none

end IngressProxy

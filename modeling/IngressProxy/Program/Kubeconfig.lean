import IngressProxy.CommandLine.Arguments
import IngressProxy.Json.Reader
import IngressProxy.Resource.Decode
import IngressProxy.Uri.Basic

namespace IngressProxy

structure ClusterContext where
  cluster : String
  deriving DecidableEq, Repr

structure ClusterEntry where
  server : Option String := none
  deriving DecidableEq, Repr

/-- A file with clusters and contexts, by their names. Users that the file does not know are none.
-/
structure Kubeconfig where
  currentContext : Option String := none
  contexts : List (String × Option ClusterContext) := []
  clusters : List (String × Option ClusterEntry) := []
  deriving DecidableEq, Repr

namespace Kubeconfig

open Resource

def readNamed {α : Type} (content : String) (r : Reader α) : Reader (String × Option α) := fun v => do
  let fields ← Reader.object v
  let name ← field fields "name" Reader.text
  let x ← field fields content (Reader.optional r)
  some (name, x)

def readContext : Reader ClusterContext := fun v => do
  let fields ← Reader.object v
  let cluster ← field fields "cluster" Reader.text
  let _ ← field fields "user" (Reader.optional Reader.text)
  let _ ← field fields "namespace" (Reader.optional Reader.text)
  some { cluster }

def readCluster : Reader ClusterEntry := fun v => do
  let fields ← Reader.object v
  let server ← field fields "server" (Reader.optional Reader.text)
  some { server }

def read : Reader Kubeconfig := fun v => do
  let fields ← Reader.object v
  let currentContext ← field fields "current-context" (Reader.optional Reader.text)
  let contexts ← field fields "contexts"
    (Reader.orElse [] (Reader.list (readNamed "context" readContext)))
  let clusters ← field fields "clusters"
    (Reader.orElse [] (Reader.list (readNamed "cluster" readCluster)))
  let _ ← field fields "users"
    (Reader.orElse [] (Reader.list (readNamed "user" Reader.object)))
  some { currentContext, contexts, clusters }

def parse? (text : String) : Option Kubeconfig := (Json.parse? text).bind read

/-- The address of the cluster that is asked for: that of the context, unless another cluster is named;
the context is the current one, unless another is named. -/
def server? (k : Kubeconfig) (a : Arguments) : Option Uri := do
  let context ← (← k.contexts.lookup (← a.context <|> k.currentContext))
  let cluster ← (← k.clusters.lookup (a.cluster.getD context.cluster))
  (Uri.parse (← cluster.server)).toOption

end Kubeconfig

end IngressProxy

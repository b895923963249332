import IngressProxy.Cluster.Index

namespace IngressProxy

inductive FeedEvent (α : Type) where
  | apply (x : α)
  | delete (x : α)
  | init
  | initApply (x : α)
  | initDone

/-- What a follower of a feed remembers: the objects that are live, those that were live before the
present listing and have not been seen in it, and the listed objects. A feed may start over: it then
lists every object again, and what was known before and is not listed is gone. The objects of a
listing reach the index all at once, when the listing is complete. -/
structure Indexer (α : Type) where
  live : List ObjectRef := []
  stale : List ObjectRef := []
  listed : List α := []

namespace Indexer

variable {α : Type}

instance : Inhabited (Indexer α) := ⟨{}⟩

/-- The reference by which a feed names an object. A feed only names objects that have both a
namespace and a name of their own. -/
def ref? [Located α] (x : α) : Option ObjectRef := do
  let m := Located.metadata x
  some ⟨← m.ns, ← m.name⟩

def addLive (t : Indexer α) (ref : ObjectRef) : Indexer α :=
  if ref ∈ t.live then t else { t with live := t.live ++ [ref] }

/-- One event, with the change of the index that it asks for. It fails if the event is about an
object that cannot be named. -/
def step? [Located α] (t : Indexer α) : FeedEvent α → Option (Indexer α × Option (IndexOp α))
  | .apply x => do
    let ref ← ref? x
    some (t.addLive ref, some (.apply x))
  | .delete x => do
    let ref ← ref? x
    some ({ t with live := t.live.filter (· ≠ ref) }, some (.delete ref))
  | .init => some ({ t with live := [], stale := t.live }, none)
  | .initApply x => do
    let ref ← ref? x
    let t := { t with stale := t.stale.filter (· ≠ ref), listed := t.listed ++ [x] }
    some (t.addLive ref, none)
  | .initDone => some ({ t with stale := [], listed := [] }, some (.reset t.listed t.stale))

end Indexer

end IngressProxy

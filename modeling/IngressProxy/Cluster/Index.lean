import IngressProxy.OrderedMap
import IngressProxy.Resource.Reference

namespace IngressProxy

/-- Objects by namespace, then by name. Objects without a namespace are not kept, and a namespace is
forgotten with its last object. -/
structure Index (α : Type) where
  spaces : OrderedMap String (OrderedMap String α) := OrderedMap.empty

inductive IndexOp (α : Type) where
  | apply (x : α)
  | delete (ref : ObjectRef)
  | reset (objects : List α) (removed : List ObjectRef)

namespace Index

variable {α : Type}

instance : Inhabited (Index α) := ⟨{}⟩

def get? (m : Index α) (ref : ObjectRef) : Option α :=
  (m.spaces.get? ref.ns).bind (·.get? ref.name)

def size (m : Index α) : Nat := (m.spaces.values.map OrderedMap.size).foldr (· + ·) 0

def toList (m : Index α) : List (ObjectRef × α) :=
  m.spaces.toList.flatMap fun s => s.2.toList.map fun e => (⟨s.1, e.1⟩, e.2)

/-- The objects with their references, in the order of these. -/
def sorted (m : Index α) : List (ObjectRef × α) := m.toList.mergeSort fun a b => a.1.le b.1

def set (m : Index α) (ref : ObjectRef) (x : α) : Index α where
  spaces := m.spaces.update ref.ns fun names => (names.getD OrderedMap.empty).insert ref.name x

/-- Keeps an object, in place of an older one of that name; one without a namespace changes nothing. -/
def apply [Located α] (m : Index α) (x : α) : Index α :=
  match (Located.metadata x).ref? with
  | some ref => m.set ref x
  | none => m

/-- Forgets an object, and its namespace if no other object is left there. -/
def delete (m : Index α) (ref : ObjectRef) : Index α :=
  match m.spaces.get? ref.ns with
  | none => m
  | some names =>
    let names := names.erase ref.name
    if names.isEmpty then ⟨m.spaces.erase ref.ns⟩ else ⟨m.spaces.insert ref.ns names⟩

/-- Carries out a change. A reset first applies its objects and then deletes what it removes. -/
def run [Located α] (m : Index α) : IndexOp α → Index α
  | .apply x => m.apply x
  | .delete ref => m.delete ref
  | .reset objects removed => removed.foldl delete (objects.foldl apply m)

end Index

end IngressProxy

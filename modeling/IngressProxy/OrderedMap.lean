namespace IngressProxy

/-- A finite map in order of first use: no key occurs twice among its entries. Replacing the value
of a key leaves the key where it is; a new key goes to the end. -/
@[ext] structure OrderedMap (κ α : Type) where
  entries : List (κ × α)
  nodup : (entries.map Prod.fst).Nodup
  deriving DecidableEq, Repr

namespace OrderedMap

variable {κ α β : Type} [DecidableEq κ]

/-- Writes `f` of the value under `k` into its place, or `f none` to the end. -/
def write (k : κ) (f : Option α → α) : List (κ × α) → List (κ × α)
  | [] => [(k, f none)]
  | e :: rest => if e.1 = k then (e.1, f (some e.2)) :: rest else e :: write k f rest

theorem keys_write (k : κ) (f : Option α → α) (l : List (κ × α)) :
    (write k f l).map Prod.fst =
      if k ∈ l.map Prod.fst then l.map Prod.fst else l.map Prod.fst ++ [k] := by
  induction l with
  | nil => simp [write]
  | cons e rest ih =>
    by_cases h : e.1 = k
    · simp [write, h]
    · have h' : ¬ k = e.1 := fun hk => h hk.symm
      by_cases hm : k ∈ rest.map Prod.fst
      · rw [if_pos hm] at ih
        simp only [write, if_neg h, List.map_cons, ih]
        rw [if_pos (List.mem_cons_of_mem _ hm)]
      · rw [if_neg hm] at ih
        simp only [write, if_neg h, List.map_cons, ih]
        rw [if_neg (by simp [h']; simpa using hm)]
        rfl

theorem nodup_write (k : κ) (f : Option α → α) (l : List (κ × α))
    (h : (l.map Prod.fst).Nodup) : ((write k f l).map Prod.fst).Nodup := by
  rw [keys_write]
  split
  · exact h
  · rename_i hk
    rw [List.nodup_append]
    refine ⟨h, List.nodup_cons.2 ⟨List.not_mem_nil, List.nodup_nil⟩, ?_⟩
    intro a ha b hb
    rw [List.mem_singleton] at hb
    rintro rfl
    exact hk (hb ▸ ha)

/-- The map without entries. -/
def empty : OrderedMap κ α := ⟨[], List.nodup_nil⟩

instance : Inhabited (OrderedMap κ α) := ⟨empty⟩

def get? (m : OrderedMap κ α) (k : κ) : Option α := m.entries.lookup k

def contains (m : OrderedMap κ α) (k : κ) : Bool := (m.get? k).isSome

/-- Sets the value under `k` to `f` of the present one. -/
def update (m : OrderedMap κ α) (k : κ) (f : Option α → α) : OrderedMap κ α :=
  ⟨write k f m.entries, nodup_write k f m.entries m.nodup⟩

def insert (m : OrderedMap κ α) (k : κ) (a : α) : OrderedMap κ α := m.update k fun _ => a

def erase (m : OrderedMap κ α) (k : κ) : OrderedMap κ α where
  entries := m.entries.filter fun e => e.1 ≠ k
  nodup := m.nodup.sublist (List.filter_sublist.map _)

/-- Inserts entries one after the other, so the last of equal keys wins. -/
def ofList (l : List (κ × α)) : OrderedMap κ α := l.foldl (fun m e => m.insert e.1 e.2) empty

/-- The entries, in order of first use of their keys. -/
def toList (m : OrderedMap κ α) : List (κ × α) := m.entries

/-- The keys, in order of first use. -/
def keys (m : OrderedMap κ α) : List κ := m.entries.map Prod.fst

/-- The values, in the order of their keys. -/
def values (m : OrderedMap κ α) : List α := m.entries.map Prod.snd

def size (m : OrderedMap κ α) : Nat := m.entries.length

def isEmpty (m : OrderedMap κ α) : Bool := m.entries.isEmpty

end OrderedMap

end IngressProxy

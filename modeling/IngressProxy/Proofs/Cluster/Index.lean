import IngressProxy.Cluster.Index
import IngressProxy.Proofs.OrderedMap
import IngressProxy.Proofs.Resource.Reference
import Mathlib.Data.List.Nodup
import Mathlib.Data.List.Sort

namespace IngressProxy.Index

variable {α : Type}

@[simp] theorem get?_empty (ref : ObjectRef) : ({} : Index α).get? ref = none := rfl

@[simp] theorem get?_set (m : Index α) (ref ref' : ObjectRef) (x : α) :
    (m.set ref x).get? ref' = if ref' = ref then some x else m.get? ref' := by
  obtain ⟨ns, name⟩ := ref
  obtain ⟨ns', name'⟩ := ref'
  by_cases hns : ns' = ns
  · subst hns
    cases h : m.spaces.get? ns' <;> simp [get?, set, h]
  · simp [get?, set, hns]

/-- Deleting forgets one reference, also where it forgets the namespace with it. -/
@[simp] theorem get?_delete (m : Index α) (ref ref' : ObjectRef) :
    (m.delete ref).get? ref' = if ref' = ref then none else m.get? ref' := by
  obtain ⟨ns, name⟩ := ref
  obtain ⟨ns', name'⟩ := ref'
  unfold delete
  cases h : m.spaces.get? ns with
  | none =>
    by_cases hns : ns' = ns
    · subst hns
      simp [get?, h]
    · simp [hns]
  | some names =>
    by_cases hns : ns' = ns
    · subst hns
      have hrest : (names.erase name).get? name' = if name' = name then none else names.get? name' :=
        OrderedMap.get?_erase names name name'
      by_cases hempty : (names.erase name).isEmpty
      · rw [(OrderedMap.isEmpty_iff _).mp hempty name'] at hrest
        simp [get?, h, hempty, ← hrest]
      · simp [get?, h, hempty]
    · by_cases hempty : (names.erase name).isEmpty <;> simp [get?, hempty, hns]

/-- Whether every namespace that is known has an object. -/
def HasNoEmptySpace (m : Index α) : Prop :=
  ∀ ns names, m.spaces.get? ns = some names → ∃ name x, names.get? name = some x

theorem hasNoEmptySpace_set {m : Index α} (h : m.HasNoEmptySpace) (ref : ObjectRef) (x : α) :
    (m.set ref x).HasNoEmptySpace := by
  intro ns names hnames
  by_cases hns : ns = ref.ns
  · subst hns
    obtain rfl : _ = names := by simpa [set] using hnames
    exact ⟨ref.name, x, by simp⟩
  · exact h ns names (by simpa [set, hns] using hnames)

theorem hasNoEmptySpace_delete {m : Index α} (h : m.HasNoEmptySpace) (ref : ObjectRef) :
    (m.delete ref).HasNoEmptySpace := by
  unfold delete
  cases hold : m.spaces.get? ref.ns with
  | none => exact h
  | some old =>
    intro ns names hnames
    by_cases hempty : (old.erase ref.name).isEmpty
    · by_cases hns : ns = ref.ns
      · simp [hempty, hns] at hnames
      · exact h ns names (by simpa [hempty, hns] using hnames)
    · by_cases hns : ns = ref.ns
      · obtain rfl : old.erase ref.name = names := by simpa [hempty, hns] using hnames
        by_contra hnone
        refine hempty ((OrderedMap.isEmpty_iff _).mpr fun name => ?_)
        cases hname : (old.erase ref.name).get? name with
        | none => rfl
        | some x => exact absurd ⟨name, x, hname⟩ hnone
      · exact h ns names (by simpa [hempty, hns] using hnames)

/-- The entries are what is found under the references. -/
theorem mem_toList_iff (m : Index α) (ref : ObjectRef) (x : α) :
    (ref, x) ∈ m.toList ↔ m.get? ref = some x := by
  obtain ⟨ns, name⟩ := ref
  simp only [toList, List.mem_flatMap, List.mem_map, Prod.mk.injEq, ObjectRef.mk.injEq, Prod.exists,
    OrderedMap.mem_toList_iff, get?, Option.bind_eq_some_iff]
  constructor
  · rintro ⟨ns', names, hnames, name', x', hx, ⟨rfl, rfl⟩, rfl⟩
    exact ⟨names, hnames, hx⟩
  · rintro ⟨names, hnames, hx⟩
    exact ⟨ns, names, hnames, name, x, hx, ⟨rfl, rfl⟩, rfl⟩

/-- No reference occurs twice among the entries. -/
theorem pairwise_ne_toList (m : Index α) : m.toList.Pairwise fun a b => a.1 ≠ b.1 := by
  have hspaces : m.spaces.toList.Pairwise fun s s' => s.1 ≠ s'.1 :=
    List.pairwise_map.mp m.spaces.nodup
  rw [toList, List.pairwise_flatMap]
  constructor
  · intro s _
    have hnames : s.2.toList.Pairwise fun e e' => e.1 ≠ e'.1 := List.pairwise_map.mp s.2.nodup
    refine List.pairwise_map.mpr (hnames.imp fun hne href => hne ?_)
    exact (ObjectRef.mk.inj href).2
  · refine hspaces.imp fun hne a ha b hb href => hne ?_
    obtain ⟨e, -, rfl⟩ := List.mem_map.mp ha
    obtain ⟨e', -, rfl⟩ := List.mem_map.mp hb
    exact (ObjectRef.mk.inj href).1

theorem size_eq_length (m : Index α) : m.size = m.toList.length := by
  rw [size, toList, List.length_flatMap, OrderedMap.values, List.map_map]
  simp only [List.length_map]
  rfl

theorem sorted_perm (m : Index α) : m.sorted.Perm m.toList := List.mergeSort_perm _ _

theorem mem_sorted_iff (m : Index α) (ref : ObjectRef) (x : α) :
    (ref, x) ∈ m.sorted ↔ m.get? ref = some x := by
  rw [m.sorted_perm.mem_iff, mem_toList_iff]

theorem pairwise_le_sorted (m : Index α) : m.sorted.Pairwise fun a b => a.1.le b.1 := by
  apply List.pairwise_mergeSort
  · exact fun _ _ _ => ObjectRef.le_trans
  · exact fun a b => a.1.le_total b.1

/-- Entries in order are in strict order, as no two have the same reference. -/
theorem pairwise_before_of_perm {m : Index α} {l : List (ObjectRef × α)} (hperm : l.Perm m.toList)
    (hle : l.Pairwise fun a b => a.1.le b.1) : l.Pairwise fun a b => a.1.Before b.1 := by
  have hne : l.Pairwise fun a b => a.1 ≠ b.1 :=
    hperm.symm.pairwise m.pairwise_ne_toList fun h => h.symm
  exact hle.imp₂ (fun _ _ => ObjectRef.before_of_le_of_ne) hne

/-- Lists of entries in strict order are equal if they have the same members. -/
theorem eq_of_pairwise_before {l l' : List (ObjectRef × α)}
    (h : l.Pairwise fun a b => a.1.Before b.1) (h' : l'.Pairwise fun a b => a.1.Before b.1)
    (hmem : ∀ ref x, (ref, x) ∈ l ↔ (ref, x) ∈ l') : l = l' := by
  have hirrefl : Std.Irrefl fun a b : ObjectRef × α => a.1.Before b.1 :=
    ⟨fun a => ObjectRef.before_irrefl a.1⟩
  have hantisymm : Std.Antisymm fun a b : ObjectRef × α => a.1.Before b.1 :=
    ⟨fun _ _ hab hba => absurd hba (ObjectRef.before_asymm hab)⟩
  exact h.eq_of_mem_iff h' fun e => hmem e.1 e.2

/-- There is one list of the entries in order, whatever order they were in and however they were
brought into this one. -/
theorem eq_sorted_of_perm {m : Index α} {l : List (ObjectRef × α)} (hperm : l.Perm m.toList)
    (hle : l.Pairwise fun a b => a.1.le b.1) : l = m.sorted :=
  eq_of_pairwise_before (pairwise_before_of_perm hperm hle)
    (pairwise_before_of_perm m.sorted_perm m.pairwise_le_sorted)
    fun ref x => by rw [hperm.mem_iff, m.sorted_perm.mem_iff]

/-- Indexes that have the same objects of a sort list these in the same order. -/
theorem filter_sorted_eq {m m' : Index α} (p : α → Bool)
    (h : ∀ ref x, p x → (m.get? ref = some x ↔ m'.get? ref = some x)) :
    (m.sorted.filter fun e => p e.2) = m'.sorted.filter fun e => p e.2 := by
  refine eq_of_pairwise_before ?_ ?_ fun ref x => ?_
  · exact (pairwise_before_of_perm m.sorted_perm m.pairwise_le_sorted).filter _
  · exact (pairwise_before_of_perm m'.sorted_perm m'.pairwise_le_sorted).filter _
  · rw [List.mem_filter, List.mem_filter, mem_sorted_iff, mem_sorted_iff]
    exact and_congr_left (h ref x)

end IngressProxy.Index

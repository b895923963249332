import IngressProxy.OrderedMap
import Mathlib.Data.List.Basic
import Mathlib.Data.List.Dedup
import Mathlib.Data.List.Induction

namespace IngressProxy.OrderedMap

variable {κ α : Type}

variable [DecidableEq κ]

theorem lookup_cons_eq (e : κ × α) (l : List (κ × α)) (k : κ) :
    (e :: l).lookup k = if k = e.1 then some e.2 else l.lookup k := by
  obtain ⟨k', a⟩ := e
  by_cases h : k = k'
  · simp [h]
  · have hb : (k == k') = false := by simpa using h
    simp [List.lookup_cons, hb, h]

theorem lookup_write (k k' : κ) (f : Option α → α) (l : List (κ × α)) :
    (write k f l).lookup k' = if k' = k then some (f (l.lookup k)) else l.lookup k' := by
  induction l with
  | nil => simp only [write, lookup_cons_eq, List.lookup_nil]
  | cons e rest ih =>
    by_cases he : e.1 = k
    · subst he
      by_cases h : k' = e.1 <;> simp [write, lookup_cons_eq, h]
    · have hk : ¬ k = e.1 := fun h => he h.symm
      simp only [write, if_neg he, lookup_cons_eq, ih, if_neg hk]
      by_cases h : k' = e.1
      · simp [h, he]
      · simp [h]

@[simp] theorem get?_empty (k : κ) : (empty : OrderedMap κ α).get? k = none := rfl

@[simp] theorem get?_update (m : OrderedMap κ α) (k k' : κ) (f : Option α → α) :
    (m.update k f).get? k' = if k' = k then some (f (m.get? k)) else m.get? k' :=
  lookup_write k k' f m.entries

@[simp] theorem get?_insert (m : OrderedMap κ α) (k k' : κ) (a : α) :
    (m.insert k a).get? k' = if k' = k then some a else m.get? k' :=
  get?_update m k k' fun _ => a

@[simp] theorem keys_insert (m : OrderedMap κ α) (k : κ) (a : α) :
    (m.insert k a).keys = if k ∈ m.keys then m.keys else m.keys ++ [k] :=
  keys_write k (fun _ => a) m.entries

theorem lookup_filter_ne (k k' : κ) (l : List (κ × α)) :
    (l.filter fun e => e.1 ≠ k).lookup k' = if k' = k then none else l.lookup k' := by
  induction l with
  | nil => simp
  | cons e rest ih =>
    by_cases he : e.1 = k
    · rw [List.filter_cons_of_neg (by simp [he]), ih, lookup_cons_eq, he]
      by_cases h : k' = k <;> simp [h]
    · rw [List.filter_cons_of_pos (by simp [he]), lookup_cons_eq, lookup_cons_eq, ih]
      by_cases h : k' = e.1
      · simp [h, he]
      · simp [h]

@[simp] theorem get?_erase (m : OrderedMap κ α) (k k' : κ) :
    (m.erase k).get? k' = if k' = k then none else m.get? k' :=
  lookup_filter_ne k k' m.entries

theorem mem_iff_lookup_eq_some {l : List (κ × α)} (h : (l.map Prod.fst).Nodup) (k : κ) (a : α) :
    (k, a) ∈ l ↔ l.lookup k = some a := by
  induction l with
  | nil => simp
  | cons e rest ih =>
    obtain ⟨hnew, hrest⟩ := List.nodup_cons.mp h
    rw [List.mem_cons, lookup_cons_eq, ih hrest]
    by_cases hk : k = e.1
    · subst hk
      -- The first key is not among the others.
      have hnone : rest.lookup e.1 ≠ some a := fun hsome =>
        hnew (List.mem_map.mpr ⟨_, (ih hrest).mpr hsome, rfl⟩)
      simp [hnone, Prod.ext_iff, eq_comm]
    · simp [hk, Prod.ext_iff]

/-- The entries are what is found under the keys. -/
theorem mem_toList_iff (m : OrderedMap κ α) (k : κ) (a : α) :
    (k, a) ∈ m.toList ↔ m.get? k = some a :=
  mem_iff_lookup_eq_some m.nodup k a

theorem isEmpty_iff (m : OrderedMap κ α) : m.isEmpty = true ↔ ∀ k, m.get? k = none := by
  rw [isEmpty, List.isEmpty_iff, List.eq_nil_iff_forall_not_mem]
  constructor
  · intro hempty k
    cases hk : m.get? k with
    | none => rfl
    | some a => exact absurd ((m.mem_toList_iff k a).mpr hk) (hempty (k, a))
  · rintro hnone ⟨k, a⟩ hmem
    have hsome := (m.mem_toList_iff k a).mp hmem
    rw [hnone k] at hsome
    cases hsome

/-- The entries are the keys, each with what is found under it. -/
theorem toList_eq_filterMap_keys (m : OrderedMap κ α) :
    m.toList = m.keys.filterMap fun k => (m.get? k).map (k, ·) := by
  obtain ⟨entries, nodup⟩ := m
  change entries = (entries.map Prod.fst).filterMap fun k => (entries.lookup k).map (k, ·)
  induction entries with
  | nil => rfl
  | cons e rest ih =>
    obtain ⟨hnew, hrest⟩ := List.nodup_cons.mp nodup
    -- The first key is not among the others, so it hides none of them.
    have hsame : ∀ k ∈ rest.map Prod.fst, (e :: rest).lookup k = rest.lookup k := by
      intro k hk
      have hne : k ≠ e.1 := fun h => hnew (h ▸ hk)
      rw [lookup_cons_eq, if_neg hne]
    have htail : ((rest.map Prod.fst).filterMap fun k => ((e :: rest).lookup k).map (k, ·)) =
        (rest.map Prod.fst).filterMap fun k => (rest.lookup k).map (k, ·) :=
      List.filterMap_congr fun k hk => by rw [hsame k hk]
    rw [List.map_cons, List.filterMap_cons, htail, ← ih hrest, lookup_cons_eq]
    simp

theorem mem_keys_iff (m : OrderedMap κ α) (k : κ) : k ∈ m.keys ↔ ∃ a, m.get? k = some a := by
  simp [← mem_toList_iff, keys, toList]

/-- Inserting entries one after the other: under each key the last of them is found. -/
theorem get?_foldl_insert (l : List (κ × α)) (m : OrderedMap κ α) (k : κ) :
    (l.foldl (fun m e => m.insert e.1 e.2) m).get? k = (l.reverse.lookup k).or (m.get? k) := by
  induction l generalizing m with
  | nil => rfl
  | cons e rest ih =>
    rw [List.foldl_cons, ih, get?_insert, List.reverse_cons, List.lookup_append, Option.or_assoc]
    by_cases h : k = e.1 <;> simp [lookup_cons_eq, h]

/-- Of equal keys the last one wins. -/
theorem get?_ofList (l : List (κ × α)) (k : κ) : (ofList l).get? k = l.reverse.lookup k := by
  rw [ofList, get?_foldl_insert, get?_empty, Option.or_none]

/-- A key takes its place where it is used first. -/
theorem keys_ofList (l : List (κ × α)) : (ofList l).keys = (l.map Prod.fst).eraseDups := by
  induction l using List.reverseRecOn with
  | nil => rfl
  | append_singleton l e ih =>
    have hsnoc : ofList (l ++ [e]) = (ofList l).insert e.1 e.2 := by simp [ofList]
    rw [hsnoc, keys_insert, ih, List.map_append, List.eraseDups_append]
    by_cases h : e.1 ∈ l.map Prod.fst
    · simp [List.removeAll, h, List.mem_eraseDups]
    · simp [List.removeAll, h, List.mem_eraseDups, List.eraseDups_cons]

/-- Each key in the place of its first use, with its last value. -/
theorem toList_ofList (l : List (κ × α)) :
    (ofList l).toList =
      (l.map Prod.fst).eraseDups.filterMap fun k => (l.reverse.lookup k).map (k, ·) := by
  rw [toList_eq_filterMap_keys, keys_ofList]
  exact List.filterMap_congr fun k _ => by rw [get?_ofList]

theorem write_of_lookup {k : κ} {a : α} {l : List (κ × α)} (h : l.lookup k = some a) :
    write k (fun _ => a) l = l := by
  induction l with
  | nil => cases h
  | cons e rest ih =>
    rw [lookup_cons_eq] at h
    by_cases he : e.1 = k
    · rw [if_pos he.symm] at h
      rw [write, if_pos he, ← Option.some.inj h]
    · rw [if_neg fun hk => he hk.symm] at h
      rw [write, if_neg he, ih h]

/-- To insert what is there already changes nothing, not even the order. -/
theorem insert_of_get? {m : OrderedMap κ α} {k : κ} {a : α} (h : m.get? k = some a) :
    m.insert k a = m :=
  OrderedMap.ext (write_of_lookup h)

theorem forall_get?_foldl_insert {p : κ → α → Prop} {l : List (κ × α)} {m : OrderedMap κ α}
    (hl : ∀ e ∈ l, p e.1 e.2) (hm : ∀ k a, m.get? k = some a → p k a) :
    ∀ k a, (l.foldl (fun m e => m.insert e.1 e.2) m).get? k = some a → p k a := by
  intro k a h
  rw [get?_foldl_insert, Option.or_eq_some_iff] at h
  obtain hlast | ⟨-, hold⟩ := h
  · obtain ⟨front, back, hsplit, -⟩ := List.lookup_eq_some_iff.mp hlast
    have hmem : (k, a) ∈ l.reverse := hsplit ▸ List.mem_append_right _ List.mem_cons_self
    exact hl (k, a) (List.mem_reverse.mp hmem)
  · exact hm k a hold

/-- A loop each of whose steps inserts entries, as long as all that is known fits them, inserts the
entries of all steps. -/
theorem foldl_eq_foldl_insert {σ β : Type} {m : σ → OrderedMap κ α} {f : σ → β → σ}
    {entries : β → List (κ × α)} {p : κ → α → Prop} (hp : ∀ b, ∀ e ∈ entries b, p e.1 e.2)
    (hstep : ∀ s b, (∀ k a, (m s).get? k = some a → p k a) →
      m (f s b) = (entries b).foldl (fun m e => m.insert e.1 e.2) (m s))
    (l : List β) (s : σ) (hs : ∀ k a, (m s).get? k = some a → p k a) :
    m (l.foldl f s) = (l.flatMap entries).foldl (fun m e => m.insert e.1 e.2) (m s) := by
  induction l generalizing s with
  | nil => rfl
  | cons b l ih =>
    have hnext : ∀ k a, (m (f s b)).get? k = some a → p k a := by
      rw [hstep s b hs]
      exact forall_get?_foldl_insert (hp b) hs
    rw [List.foldl_cons, ih _ hnext, hstep s b hs, List.flatMap_cons, List.foldl_append]

/-- A loop whose steps fill in what they want where nothing is yet fills in what any of them wants. -/
theorem get?_foldl_of_fills {σ β : Type} {m : σ → OrderedMap κ α} {step : σ → β → σ}
    {wants : β → κ → Prop} [∀ b k, Decidable (wants b k)] {value? : κ → Option α}
    (hstep : ∀ s b k, (m (step s b)).get? k =
      ((m s).get? k).or (if wants b k then value? k else none))
    (l : List β) (s : σ) (k : κ) :
    (m (l.foldl step s)).get? k =
      ((m s).get? k).or (if ∃ b ∈ l, wants b k then value? k else none) := by
  induction l generalizing s with
  | nil => simp
  | cons b l ih =>
    rw [List.foldl_cons, ih, hstep, Option.or_assoc]
    congr 1
    -- What the first step filled in is what a later one would have filled in for the same key.
    by_cases hb : wants b k
    · by_cases hl : ∃ b ∈ l, wants b k <;> simp [hb, hl]
    · simp [hb]

theorem keys_foldl_insert_ne_nil {l : List (κ × α)} (h : l ≠ []) (m : OrderedMap κ α) :
    (l.foldl (fun m e => m.insert e.1 e.2) m).keys ≠ [] := by
  induction l generalizing m with
  | nil => exact absurd rfl h
  | cons e rest ih =>
    rw [List.foldl_cons]
    cases rest with
    | nil =>
      have hmem : e.1 ∈ (m.insert e.1 e.2).keys := (mem_keys_iff _ _).mpr ⟨e.2, by simp⟩
      exact List.ne_nil_of_mem hmem
    | cons e' rest => exact ih (by simp) _

section

variable {β : Type}

/-- What stands in the lists of a map, each element with its key. -/
def flatten (m : OrderedMap κ (List β)) : List (κ × β) :=
  m.toList.flatMap fun e => e.2.map (e.1, ·)

theorem mem_flatten_iff (m : OrderedMap κ (List β)) (k : κ) (b : β) :
    (k, b) ∈ m.flatten ↔ ∃ l, m.get? k = some l ∧ b ∈ l := by
  simp only [flatten, List.mem_flatMap, List.mem_map, Prod.exists, mem_toList_iff, Prod.mk.injEq]
  constructor
  · rintro ⟨_, l, hget, _, hb, rfl, rfl⟩
    exact ⟨l, hget, hb⟩
  · rintro ⟨l, hget, hb⟩
    exact ⟨k, l, hget, b, hb, rfl, rfl⟩

/-- To append an element to the list under a key adds just this element. -/
theorem flatten_append_perm (m : OrderedMap κ (List β)) (k : κ) (b : β) :
    (m.update k fun l => l.getD [] ++ [b]).flatten.Perm (m.flatten ++ [(k, b)]) := by
  obtain ⟨entries, nodup⟩ := m
  change ((write k _ entries).flatMap _).Perm (entries.flatMap _ ++ [(k, b)])
  clear nodup
  induction entries with
  | nil => simp [write]
  | cons e rest ih =>
    by_cases he : e.1 = k
    · subst he
      have hswap : ([(e.1, b)] ++ rest.flatMap fun e => e.2.map (e.1, ·)).Perm
          ((rest.flatMap fun e => e.2.map (e.1, ·)) ++ [(e.1, b)]) := List.perm_append_comm
      simpa [write] using hswap.append_left (e.2.map (e.1, ·))
    · simpa [write, he] using ih.append_left (e.2.map (e.1, ·))

omit [DecidableEq κ] in
theorem length_flatten (m : OrderedMap κ (List β)) :
    m.flatten.length = (m.values.map List.length).foldr (· + ·) 0 := by
  rw [flatten, List.length_flatMap, values, List.map_map]
  simp [toList, List.sum, Function.comp_def]

variable {m : OrderedMap κ (List β)} (hne : ∀ k l, m.get? k = some l → l ≠ [])

include hne

/-- Where no list is empty, the keys are those of the elements. -/
theorem mem_map_fst_flatten_iff (k : κ) : k ∈ m.flatten.map Prod.fst ↔ k ∈ m.keys := by
  rw [mem_keys_iff]
  constructor
  · intro hmem
    obtain ⟨⟨_, b⟩, hb, rfl⟩ := List.mem_map.mp hmem
    obtain ⟨l, hget, -⟩ := (m.mem_flatten_iff _ b).mp hb
    exact ⟨l, hget⟩
  · rintro ⟨l, hget⟩
    obtain ⟨b, hb⟩ := List.exists_mem_of_ne_nil l (hne k l hget)
    exact List.mem_map.mpr ⟨(k, b), (m.mem_flatten_iff k b).mpr ⟨l, hget, hb⟩, rfl⟩

theorem size_eq_length_dedup : m.size = (m.flatten.map Prod.fst).dedup.length := by
  have hperm : m.keys.Perm (m.flatten.map Prod.fst).dedup := by
    refine (List.perm_ext_iff_of_nodup m.nodup (List.nodup_dedup _)).mpr fun k => ?_
    rw [List.mem_dedup, mem_map_fst_flatten_iff hne, keys]
  rw [← hperm.length_eq, keys, List.length_map]
  rfl

theorem isEmpty_iff_flatten_eq_nil : m.isEmpty = true ↔ m.flatten = [] := by
  have hkeys : m.isEmpty = true ↔ m.keys = [] := by simp [isEmpty, keys]
  rw [hkeys, ← List.map_eq_nil_iff (f := Prod.fst), List.eq_nil_iff_forall_not_mem,
    List.eq_nil_iff_forall_not_mem]
  simp only [mem_map_fst_flatten_iff hne]

end

end IngressProxy.OrderedMap

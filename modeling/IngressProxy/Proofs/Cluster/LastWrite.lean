import IngressProxy.Proofs.Cluster.Index

namespace IngressProxy

namespace IndexOp

variable {α : Type} [Located α]

/-- An object with the reference under which it is kept, if it has a namespace. -/
def placed? (x : α) : Option (ObjectRef × Option α) :=
  (Located.metadata x).ref?.map (·, some x)

/-- What an operation leaves under single references, in order: an object, or nothing. -/
def writes : IndexOp α → List (ObjectRef × Option α)
  | .apply x => (placed? x).toList
  | .delete ref => [(ref, none)]
  | .reset objects removed => objects.filterMap placed? ++ removed.map (·, none)

/-- What operations leave under a reference, in order. -/
def writesTo (ref : ObjectRef) (ops : List (IndexOp α)) : List (Option α) :=
  ((ops.flatMap writes).filter (·.1 = ref)).map Prod.snd

/-- What operations leave under a reference in the end. -/
def lastWrite (ref : ObjectRef) (ops : List (IndexOp α)) : Option α :=
  (writesTo ref ops).getLast?.getD none

theorem placed?_eq_some_iff (x y : α) (ref : ObjectRef) :
    placed? x = some (ref, some y) ↔ x = y ∧ (Located.metadata y).ref? = some ref := by
  simp only [placed?, Option.map_eq_some_iff, Prod.mk.injEq, Option.some.injEq]
  constructor
  · rintro ⟨ref', href, rfl, rfl⟩
    exact ⟨rfl, href⟩
  · rintro ⟨rfl, href⟩
    exact ⟨ref, href, rfl, rfl⟩

/-- An object is only ever left under its own reference. -/
theorem ref?_of_mem_writes {op : IndexOp α} {ref : ObjectRef} {x : α}
    (h : (ref, some x) ∈ op.writes) : (Located.metadata x).ref? = some ref := by
  cases op with
  | apply y => exact ((placed?_eq_some_iff y x ref).mp (Option.mem_toList.mp h)).2
  | delete ref' => simp [writes] at h
  | reset objects removed =>
    obtain h | h := List.mem_append.mp h
    · obtain ⟨y, -, hy⟩ := List.mem_filterMap.mp h
      exact ((placed?_eq_some_iff y x ref).mp hy).2
    · simp at h

theorem mem_writesTo_iff (ref : ObjectRef) (ops : List (IndexOp α)) (w : Option α) :
    w ∈ writesTo ref ops ↔ ∃ op ∈ ops, (ref, w) ∈ op.writes := by
  simp only [writesTo, List.mem_map, List.mem_filter, List.mem_flatMap, decide_eq_true_eq,
    Prod.exists]
  constructor
  · rintro ⟨ref', w', ⟨⟨op, hop, hw⟩, rfl⟩, rfl⟩
    exact ⟨op, hop, hw⟩
  · rintro ⟨op, hop, hw⟩
    exact ⟨ref, w, ⟨⟨op, hop, hw⟩, rfl⟩, rfl⟩

theorem filter_placed? (objects : List α) (ref : ObjectRef) :
    ((objects.filterMap placed?).filter (·.1 = ref)).map Prod.snd =
      (objects.filter fun x => (Located.metadata x).ref? = some ref).map some := by
  induction objects with
  | nil => rfl
  | cons x objects ih =>
    cases hx : (Located.metadata x).ref? with
    | none => simp [placed?, hx, ← ih]
    | some ref' => by_cases h : ref' = ref <;> simp [placed?, hx, h, ← ih]

end IndexOp

namespace Index

variable {α : Type}

/-- Leaves an object or nothing under a reference. -/
def write (m : Index α) (w : ObjectRef × Option α) : Index α :=
  match w.2 with
  | some x => m.set w.1 x
  | none => m.delete w.1

theorem get?_write (m : Index α) (w : ObjectRef × Option α) (ref : ObjectRef) :
    (m.write w).get? ref = if ref = w.1 then w.2 else m.get? ref := by
  obtain ⟨ref', x | _⟩ := w
  · exact get?_delete m ref' ref
  · exact get?_set m ref' ref _

theorem hasNoEmptySpace_write {m : Index α} (h : m.HasNoEmptySpace) (w : ObjectRef × Option α) :
    (m.write w).HasNoEmptySpace := by
  obtain ⟨ref, x | _⟩ := w
  · exact hasNoEmptySpace_delete h ref
  · exact hasNoEmptySpace_set h ref _

/-- After writes, a reference has the last one for it, or what it had before. -/
theorem get?_foldl_write (ws : List (ObjectRef × Option α)) (m : Index α) (ref : ObjectRef) :
    (ws.foldl write m).get? ref =
      ((ws.filter (·.1 = ref)).map Prod.snd).getLast?.getD (m.get? ref) := by
  induction ws using List.reverseRecOn with
  | nil => rfl
  | append_singleton ws w ih =>
    rw [List.foldl_append, List.foldl_cons, List.foldl_nil, get?_write, ih]
    by_cases h : w.1 = ref
    · simp [h]
    · have h' : ¬ ref = w.1 := fun e => h e.symm
      simp [h, h']

theorem hasNoEmptySpace_foldl_write (ws : List (ObjectRef × Option α)) {m : Index α}
    (h : m.HasNoEmptySpace) : (ws.foldl write m).HasNoEmptySpace := by
  induction ws generalizing m with
  | nil => exact h
  | cons w ws ih => exact ih (hasNoEmptySpace_write h w)

theorem get?_foldl_delete (refs : List ObjectRef) (m : Index α) (ref : ObjectRef) :
    (refs.foldl delete m).get? ref = if ref ∈ refs then none else m.get? ref := by
  induction refs generalizing m with
  | nil => simp
  | cons ref' refs ih =>
    rw [List.foldl_cons, ih, get?_delete]
    by_cases hmem : ref ∈ refs
    · simp [hmem]
    · by_cases h : ref = ref' <;> simp [hmem, h]

variable [Located α]

theorem apply_eq_foldl_write (m : Index α) (x : α) :
    m.apply x = (IndexOp.placed? x).toList.foldl write m := by
  unfold apply IndexOp.placed?
  cases (Located.metadata x).ref? <;> rfl

theorem foldl_apply_eq_foldl_write (objects : List α) (m : Index α) :
    objects.foldl apply m = (objects.filterMap IndexOp.placed?).foldl write m := by
  rw [List.filterMap_eq_flatMap_toList, List.foldl_flatMap]
  congr 1
  funext m x
  exact apply_eq_foldl_write m x

/-- An operation does its writes, one after the other. -/
theorem run_eq_foldl_write (m : Index α) (op : IndexOp α) :
    m.run op = op.writes.foldl write m := by
  cases op with
  | apply x => exact apply_eq_foldl_write m x
  | delete ref => rfl
  | reset objects removed =>
    rw [run, IndexOp.writes, List.foldl_append, foldl_apply_eq_foldl_write, List.foldl_map]
    rfl

theorem foldl_run_eq_foldl_write (ops : List (IndexOp α)) (m : Index α) :
    ops.foldl run m = (ops.flatMap IndexOp.writes).foldl write m := by
  rw [List.foldl_flatMap]
  congr 1
  funext m op
  exact run_eq_foldl_write m op

/-- After operations, a reference has what they left there last, or what it had before. -/
theorem get?_foldl_run (ops : List (IndexOp α)) (m : Index α) (ref : ObjectRef) :
    (ops.foldl run m).get? ref = (IndexOp.writesTo ref ops).getLast?.getD (m.get? ref) := by
  rw [foldl_run_eq_foldl_write, get?_foldl_write]
  rfl

/-- Objects are found under their own references. -/
theorem ref?_of_get?_foldl_run {ops : List (IndexOp α)} {ref : ObjectRef} {x : α}
    (h : (ops.foldl run ({} : Index α)).get? ref = some x) :
    (Located.metadata x).ref? = some ref := by
  rw [get?_foldl_run, get?_empty] at h
  obtain ⟨w, hw, hx⟩ : ∃ w, (IndexOp.writesTo ref ops).getLast? = some w ∧ w = some x := by
    cases hlast : (IndexOp.writesTo ref ops).getLast? with
    | none => simp [hlast] at h
    | some w => exact ⟨w, rfl, by simpa [hlast] using h⟩
  obtain ⟨op, -, hop⟩ := (IndexOp.mem_writesTo_iff ref ops w).mp (List.mem_of_getLast? hw)
  exact IndexOp.ref?_of_mem_writes (hx ▸ hop)

/-- Operations leave every reference alone that they do not write to. -/
theorem get?_foldl_run_of_not_mem {ops : List (IndexOp α)} {ref : ObjectRef}
    (h : ∀ op ∈ ops, ∀ w ∈ op.writes, w.1 ≠ ref) (m : Index α) :
    (ops.foldl run m).get? ref = m.get? ref := by
  have hnone : IndexOp.writesTo ref ops = [] := by
    refine List.eq_nil_iff_forall_not_mem.mpr fun w hw => ?_
    obtain ⟨op, hop, hmem⟩ := (IndexOp.mem_writesTo_iff ref ops w).mp hw
    exact h op hop _ hmem rfl
  rw [get?_foldl_run, hnone]
  rfl

theorem get?_run_of_not_mem {op : IndexOp α} {ref : ObjectRef} (h : ∀ w ∈ op.writes, w.1 ≠ ref)
    (m : Index α) : (m.run op).get? ref = m.get? ref := by
  have hall : ∀ op' ∈ [op], ∀ w ∈ op'.writes, w.1 ≠ ref := by simpa using h
  exact get?_foldl_run_of_not_mem hall m

/-- A reference has the last object for it, or what it had before. -/
theorem get?_foldl_apply (objects : List α) (m : Index α) (ref : ObjectRef) :
    (objects.foldl apply m).get? ref =
      (objects.filter fun x => (Located.metadata x).ref? = some ref).getLast?.or (m.get? ref) := by
  rw [foldl_apply_eq_foldl_write, get?_foldl_write, IndexOp.filter_placed?, List.getLast?_map]
  cases (objects.filter fun x => (Located.metadata x).ref? = some ref).getLast? <;> rfl

/-- A reset that removes what was there and is not listed leaves exactly what is listed. -/
theorem get?_run_reset {m : Index α} {objects : List α} {removed : List ObjectRef}
    (h : ∀ ref, ref ∈ removed ↔ (m.get? ref).isSome ∧
      ∀ x ∈ objects, (Located.metadata x).ref? ≠ some ref) (ref : ObjectRef) :
    (m.run (.reset objects removed)).get? ref =
      (objects.filter fun x => (Located.metadata x).ref? = some ref).getLast? := by
  rw [run, get?_foldl_delete, get?_foldl_apply]
  by_cases hmem : ref ∈ removed
  · have hnone : objects.filter (fun x => (Located.metadata x).ref? = some ref) = [] := by
      simpa using ((h ref).mp hmem).2
    rw [if_pos hmem, hnone]
    rfl
  · rw [if_neg hmem]
    cases hlast : (objects.filter fun x => (Located.metadata x).ref? = some ref).getLast? with
    | some x => rfl
    | none =>
      -- Nothing is listed under the reference, so what was there would have been removed.
      have hnone : ∀ x ∈ objects, (Located.metadata x).ref? ≠ some ref := by
        simpa using hlast
      cases hold : m.get? ref with
      | none => rfl
      | some x => exact absurd ((h ref).mpr ⟨by simp [hold], hnone⟩) hmem

/-- What holds of an index that operations have left. -/
structure Mirrors (m : Index α) (ops : List (IndexOp α)) : Prop where
  /-- Under a reference is what the operations left there last. -/
  get?_eq : ∀ ref, m.get? ref = IndexOp.lastWrite ref ops
  /-- Objects are found under their own references. -/
  ref?_eq : ∀ ref x, m.get? ref = some x → (Located.metadata x).ref? = some ref
  /-- No namespace is kept without an object. -/
  hasNoEmptySpace : m.HasNoEmptySpace
  /-- An object without a namespace changes nothing. -/
  run_apply : ∀ x, (Located.metadata x).ns = none → m.run (.apply x) = m
  /-- An operation leaves every reference alone that it does not write to. -/
  get?_run : ∀ op ref, (∀ w ∈ IndexOp.writes op, w.1 ≠ ref) → (m.run op).get? ref = m.get? ref
  /-- A reset that removes what was there and is not listed leaves exactly what is listed. -/
  get?_run_reset : ∀ objects removed,
    (∀ ref, ref ∈ removed ↔ (m.get? ref).isSome ∧
      ∀ x ∈ objects, (Located.metadata x).ref? ≠ some ref) →
    ∀ ref, (m.run (.reset objects removed)).get? ref =
      (objects.filter fun x => (Located.metadata x).ref? = some ref).getLast?

theorem mirrors_foldl_run (ops : List (IndexOp α)) :
    (ops.foldl run ({} : Index α)).Mirrors ops where
  get?_eq := get?_foldl_run ops {}
  ref?_eq _ _ := ref?_of_get?_foldl_run
  hasNoEmptySpace := by
    rw [foldl_run_eq_foldl_write]
    exact hasNoEmptySpace_foldl_write _ fun ns names h => by cases h
  run_apply x hx := by
    have hnone : (Located.metadata x).ref? = none := by simp [Metadata.ref?, hx]
    rw [run, apply, hnone]
  get?_run _ _ h := get?_run_of_not_mem h _
  get?_run_reset _ _ h := Index.get?_run_reset h

end Index

end IngressProxy

import IngressProxy.Cluster.Store
import IngressProxy.Proofs.Cluster.LastWrite

namespace IngressProxy

namespace StoreOp

/-- The change of the ingresses that an operation is. -/
def ingress? : StoreOp → Option (IndexOp Ingress)
  | .ingress op => some op
  | _ => none

/-- The change of the services that an operation is. -/
def service? : StoreOp → Option (IndexOp Service)
  | .service op => some op
  | _ => none

def secret? : StoreOp → Option (IndexOp Secret)
  | .secret op => some op
  | _ => none

theorem mem_filterMap_ingress? {ops : List StoreOp} {op : IndexOp Ingress} :
    op ∈ ops.filterMap ingress? ↔ .ingress op ∈ ops := by
  refine List.mem_filterMap.trans ⟨?_, fun h => ⟨_, h, rfl⟩⟩
  rintro ⟨op' | op' | op', hop, heq⟩ <;> cases heq
  exact hop

theorem mem_filterMap_service? {ops : List StoreOp} {op : IndexOp Service} :
    op ∈ ops.filterMap service? ↔ .service op ∈ ops := by
  refine List.mem_filterMap.trans ⟨?_, fun h => ⟨_, h, rfl⟩⟩
  rintro ⟨op' | op' | op', hop, heq⟩ <;> cases heq
  exact hop

theorem mem_filterMap_secret? {ops : List StoreOp} {op : IndexOp Secret} :
    op ∈ ops.filterMap secret? ↔ .secret op ∈ ops := by
  refine List.mem_filterMap.trans ⟨?_, fun h => ⟨_, h, rfl⟩⟩
  rintro ⟨op' | op' | op', hop, heq⟩ <;> cases heq
  exact hop

end StoreOp

/-- Whether a lister shows a store: the ingresses are its entries, taken in any order and then
brought into that of their references, and single objects are looked up. -/
structure Lister.Shows (l : Lister) (s : Store) : Prop where
  ingresses : ∃ entries : List (ObjectRef × Ingress), entries.Perm s.ingresses.toList ∧
    entries.Pairwise (fun a b => a.1.le b.1) ∧ l.ingresses = entries.map Prod.snd
  service : ∀ ref, l.service ref = s.services.get? ref
  secret : ∀ ref, l.secret ref = s.secrets.get? ref

namespace Store

theorem shows_lister (s : Store) : s.lister.Shows s where
  ingresses := ⟨s.ingresses.sorted, s.ingresses.sorted_perm, s.ingresses.pairwise_le_sorted, rfl⟩
  service _ := rfl
  secret _ := rfl

/-- A store is shown in one way. -/
theorem eq_lister_of_shows {s : Store} {l : Lister} (h : l.Shows s) : l = s.lister := by
  obtain ⟨entries, hperm, hle, hl⟩ := h.ingresses
  rw [Index.eq_sorted_of_perm hperm hle] at hl
  obtain ⟨ingresses, service, secret⟩ := l
  obtain rfl : ingresses = s.listIngresses := hl
  obtain rfl : service = s.services.get? := funext h.service
  obtain rfl : secret = s.secrets.get? := funext h.secret
  rfl

/-- Each kind depends on the operations of its kind only. -/
theorem runAll_eq_foldl_run (ops : List StoreOp) (s : Store) :
    s.runAll ops =
      { ingresses := (ops.filterMap StoreOp.ingress?).foldl Index.run s.ingresses
        services := (ops.filterMap StoreOp.service?).foldl Index.run s.services
        secrets := (ops.filterMap StoreOp.secret?).foldl Index.run s.secrets } := by
  induction ops generalizing s with
  | nil => rfl
  | cons op ops ih =>
    have hcons : s.runAll (op :: ops) = (s.run op).runAll ops := rfl
    rw [hcons, ih]
    cases op <;> rfl

/-- Stores in which the same is found are read alike. -/
theorem lister_eq_of_get?_eq {s s' : Store}
    (hingresses : ∀ ref, s.ingresses.get? ref = s'.ingresses.get? ref)
    (hservices : ∀ ref, s.services.get? ref = s'.services.get? ref)
    (hsecrets : ∀ ref, s.secrets.get? ref = s'.secrets.get? ref) : s.lister = s'.lister := by
  have hall : (s.ingresses.sorted.filter fun _ => true) = s'.ingresses.sorted.filter fun _ => true :=
    Index.filter_sorted_eq (fun _ => true) fun ref x _ => by rw [hingresses ref]
  have hsorted : s.ingresses.sorted = s'.ingresses.sorted := by
    rwa [List.filter_true, List.filter_true] at hall
  rw [lister, lister, listIngresses, listIngresses, hsorted, funext hservices, funext hsecrets]

/-- Ingresses are listed in the strict order of the bytes of their references. -/
theorem pairwise_before_listIngresses {s : Store}
    (h : ∀ ref i, s.ingresses.get? ref = some i → i.metadata.ref? = some ref) :
    s.listIngresses.Pairwise fun i j => ∃ a b, i.metadata.ref? = some a ∧
      j.metadata.ref? = some b ∧ a.Before b := by
  have hbefore := Index.pairwise_before_of_perm s.ingresses.sorted_perm
    s.ingresses.pairwise_le_sorted
  refine List.pairwise_map.mpr (hbefore.imp_of_mem fun {a b} ha hb hab => ?_)
  exact ⟨a.1, b.1, h a.1 a.2 ((s.ingresses.mem_sorted_iff a.1 a.2).mp ha),
    h b.1 b.2 ((s.ingresses.mem_sorted_iff b.1 b.2).mp hb), hab⟩

theorem mem_listIngresses_iff (s : Store) (i : Ingress) :
    i ∈ s.listIngresses ↔ ∃ ref, s.ingresses.get? ref = some i := by
  simp only [listIngresses, List.mem_map, Prod.exists, Index.mem_sorted_iff]
  constructor
  · rintro ⟨ref, i', hi, rfl⟩
    exact ⟨ref, hi⟩
  · rintro ⟨ref, hi⟩
    exact ⟨ref, i, hi, rfl⟩

theorem size_ingresses (s : Store) : s.ingresses.size = s.listIngresses.length := by
  rw [listIngresses, List.length_map, s.ingresses.sorted_perm.length_eq, Index.size_eq_length]

/-- After any operations, each kind is a map that has what they left last under each reference, and
is not touched by the other kinds. The ingresses are those that are left, each listed once, in the
strict order of the bytes of their references; and there is no other way to list them. -/
theorem mirrors_runAll (ops : List StoreOp) :
    let s := ({} : Store).runAll ops
    let ingressOps := ops.filterMap StoreOp.ingress?
    let serviceOps := ops.filterMap StoreOp.service?
    let secretOps := ops.filterMap StoreOp.secret?
    s = ⟨ingressOps.foldl Index.run {}, serviceOps.foldl Index.run {},
      secretOps.foldl Index.run {}⟩ ∧
    s.ingresses.Mirrors ingressOps ∧ s.services.Mirrors serviceOps ∧
    s.secrets.Mirrors secretOps ∧
    (∀ ref, s.lister.service ref = IndexOp.lastWrite ref serviceOps) ∧
    (∀ ref, s.lister.secret ref = IndexOp.lastWrite ref secretOps) ∧
    (∀ i, i ∈ s.lister.ingresses ↔ ∃ ref, IndexOp.lastWrite ref ingressOps = some i) ∧
    (s.lister.ingresses.Pairwise fun i j => ∃ a b, i.metadata.ref? = some a ∧
      j.metadata.ref? = some b ∧ a.Before b) ∧
    (∀ l : Lister, l.Shows s → l = s.lister) ∧
    s.ingresses.size = s.lister.ingresses.length := by
  intro s ingressOps serviceOps secretOps
  have hs : s = ⟨ingressOps.foldl Index.run {}, serviceOps.foldl Index.run {},
      secretOps.foldl Index.run {}⟩ := runAll_eq_foldl_run ops {}
  have hingresses : s.ingresses.Mirrors ingressOps := by
    rw [hs]
    exact Index.mirrors_foldl_run ingressOps
  have hservices : s.services.Mirrors serviceOps := by
    rw [hs]
    exact Index.mirrors_foldl_run serviceOps
  have hsecrets : s.secrets.Mirrors secretOps := by
    rw [hs]
    exact Index.mirrors_foldl_run secretOps
  refine ⟨hs, hingresses, hservices, hsecrets, hservices.get?_eq, hsecrets.get?_eq, fun i => ?_,
    pairwise_before_listIngresses hingresses.ref?_eq, fun l => eq_lister_of_shows, size_ingresses s⟩
  simp only [← hingresses.get?_eq]
  exact mem_listIngresses_iff s i

/-- An ingress and a service of one name, of which the ingress is deleted; and two listings of
ingresses, of which the second is complete. -/
def churn : List StoreOp :=
  let ingress (ns name : String) : Ingress := { metadata := { ns := some ns, name := some name } }
  [.ingress (.apply (ingress "tea" "hot")),
    .service (.apply { metadata := { ns := some "tea", name := some "hot" } }),
    .ingress (.delete ⟨"tea", "hot"⟩),
    .ingress (.apply {}),
    .ingress (.reset [ingress "shop" "old"] []),
    .ingress (.reset [ingress "tea" "iced", ingress "shop" "new"] [⟨"shop", "old"⟩])]

/-- What is left of it, in order. -/
def churned : Lister where
  ingresses := [{ metadata := { ns := some "shop", name := some "new" } },
    { metadata := { ns := some "tea", name := some "iced" } }]
  service := (({} : Store).runAll churn).services.get?
  secret := (({} : Store).runAll churn).secrets.get?

theorem mirrors_runAll_churn :
    churned.Shows (({} : Store).runAll churn) ∧ churned = (({} : Store).runAll churn).lister ∧
      (({} : Store).runAll churn).lister.service ⟨"tea", "hot"⟩ =
        some { metadata := { ns := some "tea", name := some "hot" } } := by
  have hshows : churned.Shows (({} : Store).runAll churn) :=
    ⟨⟨[(⟨"shop", "new"⟩, _), (⟨"tea", "iced"⟩, _)], by decide +kernel, by decide +kernel, rfl⟩,
      fun _ => rfl, fun _ => rfl⟩
  obtain ⟨-, -, -, -, hservice, -, -, -, hunique, -⟩ := mirrors_runAll churn
  refine ⟨hshows, hunique churned hshows, ?_⟩
  rw [hservice]
  decide +kernel

end Store

end IngressProxy

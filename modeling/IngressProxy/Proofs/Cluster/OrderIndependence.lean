import IngressProxy.Proofs.Cluster.Exactness
import IngressProxy.Proofs.Cluster.Store
import IngressProxy.Proofs.Routing.Lookups

namespace IngressProxy

/-- Whether operations leave the same under each reference of each kind, one thing after the other. -/
structure StoreOp.SameWrites (ops ops' : List StoreOp) : Prop where
  ingresses : ∀ ref, IndexOp.writesTo ref (ops.filterMap ingress?) =
    IndexOp.writesTo ref (ops'.filterMap ingress?)
  services : ∀ ref, IndexOp.writesTo ref (ops.filterMap service?) =
    IndexOp.writesTo ref (ops'.filterMap service?)
  secrets : ∀ ref, IndexOp.writesTo ref (ops.filterMap secret?) =
    IndexOp.writesTo ref (ops'.filterMap secret?)

/-- Operations that are the same for each kind may be interleaved in any way. -/
theorem StoreOp.sameWrites_of_interleaving {ops ops' : List StoreOp}
    (hingresses : ops.filterMap ingress? = ops'.filterMap ingress?)
    (hservices : ops.filterMap service? = ops'.filterMap service?)
    (hsecrets : ops.filterMap secret? = ops'.filterMap secret?) : SameWrites ops ops' :=
  ⟨fun _ => by rw [hingresses], fun _ => by rw [hservices], fun _ => by rw [hsecrets]⟩

namespace Store

theorem lister_runAll_eq {ops ops' : List StoreOp} (h : StoreOp.SameWrites ops ops') (s : Store) :
    (s.runAll ops).lister = (s.runAll ops').lister := by
  rw [runAll_eq_foldl_run, runAll_eq_foldl_run]
  refine lister_eq_of_get?_eq (fun ref => ?_) (fun ref => ?_) fun ref => ?_
  · rw [Index.get?_foldl_run, Index.get?_foldl_run, h.ingresses]
  · rw [Index.get?_foldl_run, Index.get?_foldl_run, h.services]
  · rw [Index.get?_foldl_run, Index.get?_foldl_run, h.secrets]

section

variable [AuthorityGrammar] [PatternLanguage]

/-- Operations that leave the same under each reference, one thing after the other, lead to the same
payload, in whatever order the entries of the stores are found; and in whatever order the maps of the
payloads have their entries, the tables give the same answers. So it is for all interleavings of the
operations of each kind. -/
theorem payload_eq_of_sameWrites {ops ops' : List StoreOp} (h : StoreOp.SameWrites ops ops')
    (s : Store) {l l' : Lister} (hl : l.Shows (s.runAll ops)) (hl' : l'.Shows (s.runAll ops')) :
    Payload.ofLister l = Payload.ofLister l' ∧
      (∀ p p' : Payload, p.LooksLike (.ofLister l) → p'.LooksLike (.ofLister l') →
        (∀ host path, (RoutingTable.ofPayload p).backend host path =
          (RoutingTable.ofPayload p').backend host path) ∧
        ∀ name, (RoutingTable.ofPayload p).certificate name =
          (RoutingTable.ofPayload p').certificate name) ∧
    ∀ more : List StoreOp, more.filterMap StoreOp.ingress? = ops.filterMap StoreOp.ingress? →
      more.filterMap StoreOp.service? = ops.filterMap StoreOp.service? →
      more.filterMap StoreOp.secret? = ops.filterMap StoreOp.secret? →
      ∀ l'' : Lister, l''.Shows (s.runAll more) → Payload.ofLister l'' = Payload.ofLister l' := by
  have heq : l = l' := by
    rw [eq_lister_of_shows hl, eq_lister_of_shows hl', lister_runAll_eq h]
  subst heq
  refine ⟨rfl, fun p p' hp hp' => ?_, fun more hingresses hservices hsecrets l'' hl'' => ?_⟩
  · obtain ⟨hbackend, hcertificate⟩ := RoutingTable.answers_eq_of_looksLike hp
    obtain ⟨hbackend', hcertificate'⟩ := RoutingTable.answers_eq_of_looksLike hp'
    exact ⟨fun host path => (hbackend host path).trans (hbackend' host path).symm,
      fun name => (hcertificate name).trans (hcertificate' name).symm⟩
  · have hsame := StoreOp.sameWrites_of_interleaving hingresses hservices hsecrets
    rw [eq_lister_of_shows hl'', eq_lister_of_shows hl, lister_runAll_eq hsame]

end

/-- An ingress that serves a host with its certificate, by a port of a service that it names. -/
def teaShop : Ingress where
  metadata := { ns := some "shop", name := some "tea" }
  rules := [{ host := some "tea.shop", paths := some [
    { backend := ⟨some ⟨"tea", some { name := some "http" }⟩⟩ }] }]
  tls := [⟨["tea.shop"], some "cert"⟩]

/-- The service of that ingress, before it declares its port, and its secret. -/
def teaService : Service := { metadata := teaShop.metadata }

def teaSecret : Secret where
  metadata := { ns := some "shop", name := some "cert" }
  data := [("tls.crt", Reconciliation.shopChain), ("tls.key", Reconciliation.shopKey)]

/-- What is observed of them, and of another ingress, which does not stay. -/
def teaObserved : List StoreOp :=
  [.ingress (.apply teaShop),
    .ingress (.apply { metadata := { ns := some "cafe", name := some "tea" } }),
    .service (.apply teaService),
    .service (.apply { teaService with ports := [⟨some "http", 8080⟩] }),
    .ingress (.delete ⟨"cafe", "tea"⟩), .secret (.apply teaSecret)]

/-- The same, with the first ingress last, and the service and the secret before both. -/
def teaObservedLate : List StoreOp :=
  [.secret (.apply teaSecret), .service (.apply teaService),
    .service (.apply { teaService with ports := [⟨some "http", 8080⟩] }),
    .ingress (.apply { metadata := { ns := some "cafe", name := some "tea" } }),
    .ingress (.delete ⟨"cafe", "tea"⟩), .ingress (.apply teaShop)]

theorem payload_eq_of_sameWrites_tea :
    let early := Payload.ofLister (({} : Store).runAll teaObserved).lister
    let late := Payload.ofLister (({} : Store).runAll teaObservedLate).lister
    StoreOp.SameWrites teaObserved teaObservedLate ∧ early = late ∧
      (RoutingTable.ofPayload late).backend "tea.shop" "/" =
        .ok ⟨⟨"tea:8080"⟩, 8080, by decide⟩ ∧
      ((RoutingTable.ofPayload late).certificate "tea.shop").toOption.isSome = true := by
  have hsame : StoreOp.SameWrites teaObserved teaObservedLate := by
    refine ⟨fun ref => ?_, fun _ => rfl, fun _ => rfl⟩
    -- Of the two ingresses, a reference is that of one at most.
    by_cases href : (⟨"shop", "tea"⟩ : ObjectRef) = ref
    · subst href
      rfl
    · simp [IndexOp.writesTo, teaObserved, teaObservedLate, StoreOp.ingress?, List.filterMap_cons,
        List.filter_cons, IndexOp.writes, IndexOp.placed?, Located.metadata, Metadata.ref?,
        Metadata.anyName, teaShop, href]
  obtain ⟨heq, hanswers, -⟩ := payload_eq_of_sameWrites hsame {} (shows_lister _) (shows_lister _)
  obtain ⟨hbackend, hcertificate⟩ := hanswers _ _ (.refl _) (.refl _)
  -- Only one ingress is left to be listed.
  have hlist : (({} : Store).runAll teaObserved).lister.ingresses = [teaShop] :=
    congrArg (List.map Prod.snd) (List.mergeSort_singleton _)
  have hearly : (({} : Store).runAll teaObserved).lister =
      { (({} : Store).runAll teaObserved).lister with ingresses := [teaShop] } := by
    rw [← hlist]
  refine ⟨hsame, heq, ?_, ?_⟩
  · rw [← hbackend, hearly]
    decide +kernel
  · rw [← hcertificate, hearly]
    decide +kernel

end Store

end IngressProxy

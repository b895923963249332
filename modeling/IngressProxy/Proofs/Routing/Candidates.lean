import IngressProxy.Routing.Table
import IngressProxy.Proofs.OrderedMap

namespace IngressProxy

theorem flatMap_filter_of_eq_nil {α β : Type} {keep : α → Bool} {f : α → List β}
    (h : ∀ x, keep x = false → f x = []) (l : List α) : (l.filter keep).flatMap f = l.flatMap f := by
  induction l with
  | nil => rfl
  | cons x l ih =>
    cases hx : keep x with
    | false => rw [List.filter_cons_of_neg (by simp [hx]), ih, List.flatMap_cons, h x hx]; rfl
    | true => rw [List.filter_cons_of_pos hx, List.flatMap_cons, List.flatMap_cons, ih]

namespace Rule

variable [PatternLanguage]

theorem compilePath_ne_backend (path : Option String) (fault : BackendFault) :
    compilePath path ≠ .error (.backend fault) := by
  unfold compilePath
  cases path with
  | none => simp
  | some text =>
    simp only
    split
    · simp
    · split <;> simp

variable [AuthorityGrammar] {known : OrderedMap String ServicePorts} {path : Option String}
  {backend : IngressBackend}

/-- A rule that is compiled has passed every check. -/
theorem of_compile_eq_ok {rule : Rule} (h : compile known path backend = .ok rule) :
    ∃ ref port, BackendRef.ofBackend? backend = some ref ∧ resolvePort known ref = .ok port ∧
      BackendUrl.http ref.service port = .ok rule.url ∧ compilePath path = .ok rule.path := by
  unfold compile at h
  cases href : BackendRef.ofBackend? backend with
  | none => simp [href] at h
  | some ref =>
    cases hport : resolvePort known ref with
    | error fault => simp [href, hport] at h
    | ok port =>
      cases hurl : BackendUrl.http ref.service port with
      | error fault => simp [href, hport, hurl] at h
      | ok url =>
        cases hpath : compilePath path with
        | error fault => simp [href, hport, hurl, hpath, Except.map] at h
        | ok pattern =>
          obtain rfl : _ = rule := by simpa [href, hport, hurl, hpath, Except.map] using h
          exact ⟨ref, port, rfl, hport, hurl, rfl⟩

/-- A rule without an address misses its port, or the address is refused with the port that it has. -/
theorem compile_eq_backend_iff {ref : BackendRef} (href : BackendRef.ofBackend? backend = some ref)
    {fault : BackendFault} :
    compile known path backend = .error (.backend fault) ↔
      resolvePort known ref = .error fault ∨
        ∃ port, resolvePort known ref = .ok port ∧
          BackendUrl.http ref.service port = .error fault := by
  unfold compile
  cases hport : resolvePort known ref with
  | error other => simp [href, hport]
  | ok port =>
    cases hurl : BackendUrl.http ref.service port with
    | error other => simp [href, hport, hurl]
    | ok url =>
      cases hpath : compilePath path with
      | error other =>
        have hother : other ≠ .backend fault := fun h => compilePath_ne_backend path fault (h ▸ hpath)
        simpa [href, hport, hurl, hpath, Except.map] using hother
      | ok pattern => simp [href, hport, hurl, Except.map]

end Rule

/-- A rule as an ingress declares it, before it is compiled. -/
structure Candidate where
  source : IngressPayload
  host : String
  path : Option String
  backend : IngressBackend

namespace IngressPayload

/-- The destination for everything else, as a rule for a host. -/
def defaultCandidates (p : IngressPayload) (host : String) : List Candidate :=
  p.ingress.defaultBackend.toList.map fun backend => ⟨p, host, none, backend⟩

/-- The candidates of a rule: its paths, or the default destination if it has no HTTP block. -/
def ruleCandidates (p : IngressPayload) (r : IngressRule) : List Candidate :=
  match r.paths with
  | some paths => paths.map fun path => ⟨p, r.host.getD "", path.path, path.backend⟩
  | none => p.defaultCandidates (r.host.getD "")

/-- The candidates of an ingress. One without rules has its default destination, for no host. -/
def candidates (p : IngressPayload) : List Candidate :=
  if p.ingress.rules.isEmpty then p.defaultCandidates ""
  else p.ingress.rules.flatMap p.ruleCandidates

theorem of_mem_defaultCandidates {p : IngressPayload} {host : String} {c : Candidate}
    (hc : c ∈ p.defaultCandidates host) : c.source = p ∧ c.backend ∈ p.ingress.backends := by
  obtain ⟨backend, hb, rfl⟩ := List.mem_map.mp hc
  exact ⟨rfl, List.mem_append_left _ hb⟩

theorem of_mem_ruleCandidates {p : IngressPayload} {r : IngressRule} (hr : r ∈ p.ingress.rules)
    {c : Candidate} (hc : c ∈ p.ruleCandidates r) :
    c.source = p ∧ c.backend ∈ p.ingress.backends := by
  unfold ruleCandidates at hc
  cases hpaths : r.paths with
  | none =>
    rw [hpaths] at hc
    exact of_mem_defaultCandidates hc
  | some paths =>
    rw [hpaths] at hc
    obtain ⟨path, hpath, rfl⟩ := List.mem_map.mp hc
    refine ⟨rfl, List.mem_append_right _ (List.mem_flatMap.mpr ⟨r, hr, ?_⟩)⟩
    rw [hpaths]
    exact List.mem_map_of_mem hpath

/-- What a table considers of an ingress, a reconciliation has looked at. -/
theorem of_mem_candidates {p : IngressPayload} {c : Candidate} (hc : c ∈ p.candidates) :
    c.source = p ∧ c.backend ∈ p.ingress.backends := by
  unfold candidates at hc
  split at hc
  · exact of_mem_defaultCandidates hc
  · obtain ⟨r, hr, hc⟩ := List.mem_flatMap.mp hc
    exact of_mem_ruleCandidates hr hc

end IngressPayload

/-- The candidates of a payload, in the order in which they are declared. -/
def Payload.candidates (p : Payload) : List Candidate :=
  p.ingresses.flatMap IngressPayload.candidates

/-- One change of a table that is being built. -/
inductive BuildStep where
  | offer (host : String) (pairs : List (String × Certificate))
  | rule (c : Candidate)

namespace BuildStep

/-- The rule that a step adds. -/
def candidate? : BuildStep → Option Candidate
  | .offer _ _ => none
  | .rule c => some c

/-- The certificates that a step offers to a host. -/
def pairsFor (host : String) : BuildStep → List (String × Certificate)
  | .offer h pairs => if h = host then pairs else []
  | .rule _ => []

theorem filterMap_candidate?_rule (c : Candidate) (steps : List BuildStep) :
    (.rule c :: steps).filterMap candidate? =
      c :: steps.filterMap candidate? :=
  List.filterMap_cons_some rfl

theorem filterMap_candidate?_map_rule (l : List Candidate) :
    (l.map rule).filterMap candidate? = l := by
  rw [List.filterMap_map]
  exact List.filterMap_some

theorem flatMap_pairsFor_map_rule (host : String) (l : List Candidate) :
    (l.map rule).flatMap (pairsFor host) = [] := by
  simp [pairsFor]

end BuildStep

/-- The steps in which an ingress is added: each rule is offered every certificate of the ingress
before its candidates are added. -/
def IngressPayload.steps (certificates : OrderedMap ObjectRef Certificate) (p : IngressPayload) :
    List BuildStep :=
  if p.ingress.rules.isEmpty then (p.defaultCandidates "").map .rule
  else p.ingress.rules.flatMap fun r =>
    .offer (r.host.getD "") (TableBuild.tlsPairs p.ingress certificates) ::
      (p.ruleCandidates r).map .rule

/-- The steps in which a payload is compiled. -/
def Payload.steps (p : Payload) : List BuildStep := p.ingresses.flatMap (·.steps p.certificates)

/-- The rules that the steps add are the candidates. -/
theorem Payload.filterMap_candidate?_steps (p : Payload) :
    p.steps.filterMap BuildStep.candidate? = p.candidates := by
  have hone (q : IngressPayload) :
      (q.steps p.certificates).filterMap BuildStep.candidate? = q.candidates := by
    unfold IngressPayload.steps IngressPayload.candidates
    split
    · exact BuildStep.filterMap_candidate?_map_rule _
    · rw [List.filterMap_flatMap]
      congr 1
      funext r
      rw [List.filterMap_cons_none rfl, BuildStep.filterMap_candidate?_map_rule]
  rw [Payload.steps, Payload.candidates, List.filterMap_flatMap]
  congr 1
  exact funext hone

namespace Candidate

variable [AuthorityGrammar] [PatternLanguage]

/-- The rule of a table that a candidate becomes, or why it becomes none. -/
def compile (c : Candidate) : Except RuleFault Rule :=
  Rule.compile c.source.servicePorts c.path c.backend

/-- The rule of a table that a candidate becomes, if it becomes one. -/
def rule? (c : Candidate) : Option Rule := c.compile.toOption

/-- The record of a candidate that is skipped for a fault. -/
def record (c : Candidate) (fault : RuleFault) : SkippedRule where
  ns := c.source.ingress.metadata.nsOrEmpty
  name := c.source.ingress.metadata.anyName
  host := c.host
  path := c.path.getD ""
  fault := fault

/-- The record of a candidate that cannot be compiled. -/
def skipped? (c : Candidate) : Option SkippedRule :=
  match c.compile with
  | .ok _ => none
  | .error fault => some (c.record fault)

theorem skipped?_eq_some_iff {c : Candidate} {s : SkippedRule} :
    c.skipped? = some s ↔ ∃ fault, c.compile = .error fault ∧ c.record fault = s := by
  unfold skipped?
  cases c.compile <;> simp

end Candidate

namespace TableBuild

def rulesUnder (b : TableBuild) (host : String) : List Rule := (b.table.rules.get? host).getD []

/-- The certificates that may be presented for a host. -/
def certificatesUnder (b : TableBuild) (host : String) : OrderedMap String Certificate :=
  (b.table.certificates.get? host).getD OrderedMap.empty

theorem offer_frame (b : TableBuild) (host : String) (pairs : List (String × Certificate)) :
    (b.offer host pairs).table.rules = b.table.rules ∧
      (b.offer host pairs).skipped = b.skipped := by
  unfold offer
  split <;> exact ⟨rfl, rfl⟩

/-- An offer inserts its pairs under its host; an offer of nothing changes nothing. -/
theorem certificatesUnder_offer (b : TableBuild) (host : String)
    (pairs : List (String × Certificate)) (h : String) :
    (b.offer host pairs).certificatesUnder h =
      (if host = h then pairs else []).foldl (fun m e => m.insert e.1 e.2)
        (b.certificatesUnder h) := by
  unfold offer
  by_cases hp : pairs.isEmpty
  · have hnil : pairs = [] := by simpa using hp
    simp [hnil]
  · by_cases hh : host = h
    · subst hh
      simp [hp, certificatesUnder]
    · have hne : ¬ h = host := fun e => hh e.symm
      simp [hp, certificatesUnder, hh, hne]

variable [AuthorityGrammar] [PatternLanguage]

def perform (b : TableBuild) : BuildStep → TableBuild
  | .offer host pairs => b.offer host pairs
  | .rule c => b.addRule c.source c.host c.path c.backend

theorem addDefault_eq_foldl (b : TableBuild) (p : IngressPayload) (host : String) :
    b.addDefault p host = ((p.defaultCandidates host).map BuildStep.rule).foldl perform b := by
  unfold addDefault IngressPayload.defaultCandidates
  cases p.ingress.defaultBackend with
  | none => rfl
  | some backend => rfl

theorem addIngressRule_eq_foldl (b : TableBuild) (p : IngressPayload)
    (pairs : List (String × Certificate)) (r : IngressRule) :
    addIngressRule p pairs b r =
      (.offer (r.host.getD "") pairs :: (p.ruleCandidates r).map .rule).foldl perform b := by
  unfold addIngressRule IngressPayload.ruleCandidates
  cases r.paths with
  | some paths =>
    rw [List.foldl_cons, List.foldl_map, List.foldl_map]
    rfl
  | none => exact addDefault_eq_foldl _ p _

theorem addIngress_eq_foldl (certificates : OrderedMap ObjectRef Certificate) (b : TableBuild)
    (p : IngressPayload) :
    addIngress certificates b p = (p.steps certificates).foldl perform b := by
  unfold addIngress IngressPayload.steps
  split
  · exact addDefault_eq_foldl b p ""
  · rw [List.foldl_flatMap]
    congr 1
    funext b r
    exact addIngressRule_eq_foldl b p _ r

/-- The loops over ingresses, rules and paths are one loop over the steps. -/
theorem ofPayload_eq_foldl (p : Payload) : ofPayload p = p.steps.foldl perform {} := by
  unfold ofPayload Payload.steps
  rw [List.foldl_flatMap]
  congr 1
  funext b q
  exact addIngress_eq_foldl p.certificates b q

theorem perform_rule_of_ok (b : TableBuild) {c : Candidate} {rule : Rule}
    (h : c.compile = .ok rule) :
    b.perform (.rule c) = { b with
      table.rules := b.table.rules.update c.host fun rules => rules.getD [] ++ [rule] } := by
  rw [Candidate.compile] at h
  rw [perform, addRule, h]

theorem perform_rule_of_error (b : TableBuild) {c : Candidate} {fault : RuleFault}
    (h : c.compile = .error fault) :
    b.perform (.rule c) = { b with skipped := b.skipped ++ [c.record fault] } := by
  rw [Candidate.compile] at h
  rw [perform, addRule, h]
  rfl

/-- A rule that compiles goes to the end of those of its host, and nowhere else. -/
theorem rulesUnder_perform_rule (b : TableBuild) (c : Candidate) (host : String) :
    (b.perform (.rule c)).rulesUnder host =
      b.rulesUnder host ++ if c.host = host then c.rule?.toList else [] := by
  cases h : c.compile with
  | error fault =>
    rw [perform_rule_of_error b h]
    simp [rulesUnder, Candidate.rule?, h, Except.toOption]
  | ok rule =>
    rw [perform_rule_of_ok b h]
    by_cases hh : c.host = host
    · subst hh
      simp [rulesUnder, Candidate.rule?, h, Except.toOption]
    · have hne : ¬ host = c.host := fun e => hh e.symm
      simp [rulesUnder, hh, hne]

theorem skipped_perform_rule (b : TableBuild) (c : Candidate) :
    (b.perform (.rule c)).skipped = b.skipped ++ c.skipped?.toList := by
  unfold Candidate.skipped?
  cases h : c.compile with
  | error fault => rw [perform_rule_of_error b h]; rfl
  | ok rule => rw [perform_rule_of_ok b h]; simp

theorem certificates_perform_rule (b : TableBuild) (c : Candidate) :
    (b.perform (.rule c)).table.certificates = b.table.certificates := by
  cases h : c.compile with
  | error fault => rw [perform_rule_of_error b h]
  | ok rule => rw [perform_rule_of_ok b h]

theorem rulesUnder_foldl (steps : List BuildStep) (b : TableBuild) (host : String) :
    (steps.foldl perform b).rulesUnder host = b.rulesUnder host ++
      ((steps.filterMap BuildStep.candidate?).filter (·.host = host)).filterMap
        Candidate.rule? := by
  induction steps generalizing b with
  | nil => simp
  | cons s steps ih =>
    rw [List.foldl_cons, ih]
    cases s with
    | offer h pairs =>
      rw [List.filterMap_cons_none rfl]
      congr 1
      rw [rulesUnder, perform, (offer_frame b h pairs).1, rulesUnder]
    | rule c =>
      rw [rulesUnder_perform_rule, BuildStep.filterMap_candidate?_rule, List.append_assoc]
      congr 1
      by_cases hh : c.host = host
      · cases hc : c.rule? <;> simp [hh, hc]
      · simp [hh]

theorem skipped_foldl (steps : List BuildStep) (b : TableBuild) :
    (steps.foldl perform b).skipped = b.skipped ++
      (steps.filterMap BuildStep.candidate?).filterMap Candidate.skipped? := by
  induction steps generalizing b with
  | nil => simp
  | cons s steps ih =>
    rw [List.foldl_cons, ih]
    cases s with
    | offer h pairs => rw [List.filterMap_cons_none rfl, perform, (offer_frame b h pairs).2]
    | rule c =>
      rw [skipped_perform_rule, BuildStep.filterMap_candidate?_rule, List.append_assoc]
      congr 1
      cases hc : c.skipped? <;> simp [hc]

theorem certificatesUnder_foldl (steps : List BuildStep) (b : TableBuild) (host : String) :
    (steps.foldl perform b).certificatesUnder host =
      (steps.flatMap (BuildStep.pairsFor host)).foldl (fun m e => m.insert e.1 e.2)
        (b.certificatesUnder host) := by
  induction steps generalizing b with
  | nil => rfl
  | cons s steps ih =>
    rw [List.foldl_cons, ih, List.flatMap_cons, List.foldl_append]
    congr 1
    cases s with
    | offer h pairs => exact certificatesUnder_offer b h pairs host
    | rule c => rw [certificatesUnder, certificates_perform_rule]; rfl

/-- Under each host stand its candidates that compile, in the order of their declaration. -/
theorem rulesUnder_ofPayload (p : Payload) (host : String) :
    (ofPayload p).rulesUnder host =
      (p.candidates.filter (·.host = host)).filterMap Candidate.rule? := by
  rw [ofPayload_eq_foldl, rulesUnder_foldl, p.filterMap_candidate?_steps]
  rfl

/-- The candidates that do not compile are recorded, in the order of their declaration. -/
theorem skipped_ofPayload (p : Payload) :
    (ofPayload p).skipped = p.candidates.filterMap Candidate.skipped? := by
  rw [ofPayload_eq_foldl, skipped_foldl, p.filterMap_candidate?_steps]
  rfl

end TableBuild

end IngressProxy

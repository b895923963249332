import IngressProxy.Proofs.Routing.CertificateChoice

namespace IngressProxy

/-- Whether a table keeps no host without a rule, and none without a certificate to present. -/
structure RoutingTable.IsTidy (t : RoutingTable) : Prop where
  rules : ∀ host rules, t.rules.get? host = some rules → rules ≠ []
  certificates : ∀ host certs, t.certificates.get? host = some certs → certs.keys ≠ []

namespace Candidate

variable [AuthorityGrammar] [PatternLanguage]

/-- The host under which a candidate is placed and the rule that it becomes, if it becomes one. -/
def placed? (c : Candidate) : Option (String × Rule) := c.rule?.map (c.host, ·)

theorem placed?_eq_some_iff {c : Candidate} {rule : Rule} {host : String} :
    c.placed? = some (host, rule) ↔ c.host = host ∧ c.compile = .ok rule := by
  unfold placed? rule?
  cases c.compile <;> simp [Except.toOption]

/-- A candidate is placed or skipped, and not both. -/
theorem outcome (c : Candidate) :
    (∃ rule, c.placed? = some (c.host, rule) ∧ c.skipped? = none) ∨
      ∃ fault, c.placed? = none ∧ c.skipped? = some (c.record fault) := by
  unfold placed? rule? skipped?
  cases c.compile with
  | ok rule => exact .inl ⟨rule, rfl, rfl⟩
  | error fault => exact .inr ⟨fault, rfl, rfl⟩

theorem length_outcomes (l : List Candidate) :
    (l.filterMap placed?).length + (l.filterMap skipped?).length = l.length := by
  induction l with
  | nil => rfl
  | cons c l ih =>
    obtain ⟨rule, hplaced, hskipped⟩ | ⟨fault, hplaced, hskipped⟩ := c.outcome
    · rw [List.filterMap_cons_some hplaced, List.filterMap_cons_none hskipped, List.length_cons,
        List.length_cons]
      omega
    · rw [List.filterMap_cons_none hplaced, List.filterMap_cons_some hskipped, List.length_cons,
        List.length_cons]
      omega

end Candidate

namespace TableBuild

theorem isTidy_offer {b : TableBuild} (h : b.table.IsTidy) (host : String)
    (pairs : List (String × Certificate)) : (b.offer host pairs).table.IsTidy := by
  constructor
  · rw [(offer_frame b host pairs).1]
    exact h.rules
  · intro other certs hget
    unfold offer at hget
    split at hget
    · exact h.certificates other certs hget
    · rename_i hpairs
      rw [OrderedMap.get?_update] at hget
      split at hget
      · obtain rfl := Option.some.inj hget
        exact OrderedMap.keys_foldl_insert_ne_nil (by simpa using hpairs) _
      · exact h.certificates other certs hget

variable [AuthorityGrammar] [PatternLanguage]

theorem isTidy_perform {b : TableBuild} (h : b.table.IsTidy) (s : BuildStep) :
    (b.perform s).table.IsTidy := by
  cases s with
  | offer host pairs => exact isTidy_offer h host pairs
  | rule c =>
    cases hc : c.compile with
    | error fault =>
      rw [perform_rule_of_error b hc]
      exact h
    | ok rule =>
      rw [perform_rule_of_ok b hc]
      refine ⟨fun host rules hget => ?_, h.certificates⟩
      rw [OrderedMap.get?_update] at hget
      split at hget
      · obtain rfl := Option.some.inj hget
        simp
      · exact h.rules host rules hget

theorem isTidy_foldl (steps : List BuildStep) {b : TableBuild} (h : b.table.IsTidy) :
    (steps.foldl perform b).table.IsTidy := by
  induction steps generalizing b with
  | nil => exact h
  | cons s steps ih => exact ih (isTidy_perform h s)

theorem isTidy_ofPayload (p : Payload) : (ofPayload p).table.IsTidy := by
  rw [ofPayload_eq_foldl]
  exact isTidy_foldl p.steps ⟨fun _ _ hget => (nomatch hget), fun _ _ hget => (nomatch hget)⟩

/-- A step places the candidate that it brings, if that becomes a rule, and moves no other rule. -/
theorem flatten_perform_perm (b : TableBuild) (s : BuildStep) :
    (b.perform s).table.rules.flatten.Perm
      (b.table.rules.flatten ++ (s.candidate?.bind Candidate.placed?).toList) := by
  cases s with
  | offer host pairs =>
    rw [perform, (offer_frame b host pairs).1]
    simp [BuildStep.candidate?]
  | rule c =>
    simp only [BuildStep.candidate?, Option.bind_some]
    cases hc : c.compile with
    | error fault =>
      rw [perform_rule_of_error b hc]
      simp [Candidate.placed?, Candidate.rule?, hc, Except.toOption]
    | ok rule =>
      rw [perform_rule_of_ok b hc, Candidate.placed?_eq_some_iff.mpr ⟨rfl, hc⟩]
      exact OrderedMap.flatten_append_perm b.table.rules c.host rule

theorem flatten_foldl_perm (steps : List BuildStep) (b : TableBuild) :
    (steps.foldl perform b).table.rules.flatten.Perm
      (b.table.rules.flatten ++
        (steps.filterMap BuildStep.candidate?).filterMap Candidate.placed?) := by
  induction steps generalizing b with
  | nil => simp
  | cons s steps ih =>
    refine (ih (b.perform s)).trans ?_
    refine ((flatten_perform_perm b s).append_right _).trans (List.Perm.of_eq ?_)
    rw [List.append_assoc]
    congr 1
    cases hs : s.candidate? with
    | none => simp [hs]
    | some c => cases hc : c.placed? <;> simp [hs, hc]

/-- The rules of a table are the candidates that compile, each once and under its host. -/
theorem flatten_ofPayload_perm (p : Payload) :
    (ofPayload p).table.rules.flatten.Perm (p.candidates.filterMap Candidate.placed?) := by
  have hrun := flatten_foldl_perm p.steps {}
  rw [← ofPayload_eq_foldl, p.filterMap_candidate?_steps] at hrun
  exact hrun

end TableBuild

namespace Payload

/-- Nothing is offered for any name exactly if no ingress with rules has a certificate. -/
theorem pairsFor_eq_nil_iff (p : Payload) :
    (∀ name, p.pairsFor name = []) ↔
      ∀ q ∈ p.ingresses, q.ingress.rules ≠ [] → q.ingress.declaredPairs p.certificates = [] := by
  constructor
  · intro hnone q hq hrules
    obtain ⟨r, hr⟩ := List.exists_mem_of_ne_nil _ hrules
    -- The first rule offers all that the ingress has, for its own host.
    have hq' := List.flatMap_eq_nil_iff.mp (hnone (r.host.getD "")) q hq
    exact List.flatMap_eq_nil_iff.mp hq' r (List.mem_filter.mpr ⟨hr, by simp⟩)
  · intro hnone name
    refine List.flatMap_eq_nil_iff.mpr fun q hq => List.flatMap_eq_nil_iff.mpr fun r hr => ?_
    exact hnone q hq (List.ne_nil_of_mem (List.mem_of_mem_filter hr))

end Payload

namespace TableBuild

variable [AuthorityGrammar] [PatternLanguage]

theorem isEmpty_rules_iff (p : Payload) :
    (ofPayload p).table.rules.isEmpty = true ↔ ∀ c ∈ p.candidates, c.placed? = none := by
  rw [OrderedMap.isEmpty_iff_flatten_eq_nil (isTidy_ofPayload p).rules, ← List.length_eq_zero_iff,
    (flatten_ofPayload_perm p).length_eq, List.length_eq_zero_iff, List.filterMap_eq_nil_iff]

theorem isEmpty_certificates_iff (p : Payload) :
    (ofPayload p).table.certificates.isEmpty = true ↔
      ∀ q ∈ p.ingresses, q.ingress.rules ≠ [] → q.ingress.declaredPairs p.certificates = [] := by
  rw [OrderedMap.isEmpty_iff, ← p.pairsFor_eq_nil_iff]
  refine forall_congr' fun name => ?_
  have hunder := certificatesUnder_ofPayload p name
  constructor
  · intro hnone
    rw [certificatesUnder, hnone] at hunder
    by_contra hpairs
    exact OrderedMap.keys_foldl_insert_ne_nil hpairs _ (congrArg OrderedMap.keys hunder).symm
  · intro hpairs
    cases hget : (ofPayload p).table.certificates.get? name with
    | none => rfl
    | some certs =>
      rw [certificatesUnder, hget, hpairs] at hunder
      exact absurd (congrArg OrderedMap.keys hunder) ((isTidy_ofPayload p).certificates name certs hget)

/-- What a table and the rules that were skipped for it owe to a payload. -/
structure KeepsBooks (b : TableBuild) (p : Payload) : Prop where
  /-- No host is kept without a rule. -/
  rules : ∀ host rules, b.table.rules.get? host = some rules → rules ≠ []
  /-- No host is kept without a certificate to present, and no two of them are under one name. -/
  certificates : ∀ host certs, b.table.certificates.get? host = some certs →
    certs.toList ≠ [] ∧ (certs.toList.map Prod.fst).Nodup
  /-- A candidate becomes a rule or is skipped, and not both. -/
  outcome : ∀ c ∈ p.candidates,
    (∃ rule, c.placed? = some (c.host, rule) ∧ c.skipped? = none) ∨
      ∃ fault, c.placed? = none ∧ c.skipped? = some (c.record fault)
  /-- The rules are those that the candidates become, each once and under its host. -/
  placed : b.table.rules.flatten.Perm (p.candidates.filterMap Candidate.placed?)
  skipped : b.skipped = p.candidates.filterMap Candidate.skipped?
  count : b.table.ruleCount + b.skipped.length = p.candidates.length
  hosts : b.table.hostCount = ((p.candidates.filterMap Candidate.placed?).map Prod.fst).dedup.length
  /-- A table is empty if there is neither a rule nor an ingress with rules and a certificate. -/
  isEmpty_iff : b.table.isEmpty = true ↔ (∀ c ∈ p.candidates, c.placed? = none) ∧
    ∀ q ∈ p.ingresses, q.ingress.rules ≠ [] → q.ingress.declaredPairs p.certificates = []

/-- Every payload is accounted for by its table. -/
theorem keepsBooks_ofPayload (p : Payload) : (ofPayload p).KeepsBooks p := by
  have htidy := isTidy_ofPayload p
  have hplaced := flatten_ofPayload_perm p
  have hskipped := skipped_ofPayload p
  refine ⟨htidy.rules, fun host certs hget => ⟨?_, certs.nodup⟩, fun c _ => c.outcome, hplaced,
    hskipped, ?_, ?_, ?_⟩
  · intro hnil
    exact htidy.certificates host certs hget (congrArg (List.map Prod.fst) hnil)
  · rw [RoutingTable.ruleCount, ← OrderedMap.length_flatten, hplaced.length_eq, hskipped,
      Candidate.length_outcomes]
  · rw [RoutingTable.hostCount, OrderedMap.size_eq_length_dedup htidy.rules]
    exact ((hplaced.map Prod.fst).dedup).length_eq
  · rw [RoutingTable.isEmpty, Bool.and_eq_true, isEmpty_rules_iff, isEmpty_certificates_iff]

end TableBuild

/-- Two ingresses with four candidates. One of them has a path that is no pattern, another one names no
service. -/
def mixedPayload : Payload where
  ingresses := [
    { ingress := {
        defaultBackend := some ⟨some ⟨"leaf", some { number := some 80 }⟩⟩
        rules := [
          { host := some "tea.shop"
            paths := some [
              { backend := ⟨some ⟨"tea", some { number := some 8080 }⟩⟩ },
              { path := some "(", backend := ⟨some ⟨"tea", some { number := some 8080 }⟩⟩ }] },
          { host := some "tea.shop" }] } },
    { ingress := { defaultBackend := some {} } }]

theorem TableBuild.keepsBooks_ofPayload_mixedPayload :
    mixedPayload.candidates.length = 4 ∧ (ofPayload mixedPayload).skipped.length = 2 ∧
      (ofPayload mixedPayload).table.ruleCount = 2 ∧
      (ofPayload mixedPayload).table.hostCount = 1 := by
  have hbooks := keepsBooks_ofPayload mixedPayload
  have hskipped : (ofPayload mixedPayload).skipped.length = 2 := by
    rw [hbooks.skipped]
    decide +kernel
  have hcandidates : mixedPayload.candidates.length = 4 := by decide
  have hcount := hbooks.count
  refine ⟨hcandidates, hskipped, by omega, ?_⟩
  rw [hbooks.hosts]
  decide +kernel

end IngressProxy

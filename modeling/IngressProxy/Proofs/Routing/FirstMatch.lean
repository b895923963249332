import IngressProxy.Proofs.Routing.Candidates

namespace IngressProxy

namespace Candidate

/-- The port of a candidate: its number, or what the service that it names declares under its name,
or the default if that service is not known. -/
def port? (c : Candidate) (ref : BackendRef) : Option UInt16 :=
  match ref.port with
  | .number n => some n.val
  | .name name =>
    match c.source.servicePorts.get? ref.service with
    | none => some defaultServicePort
    | some ports => ports.get? name

theorem toOption_resolvePort (c : Candidate) (ref : BackendRef) :
    (resolvePort c.source.servicePorts ref).toOption = c.port? ref := by
  unfold resolvePort port?
  cases ref.port with
  | number n => rfl
  | name name =>
    cases c.source.servicePorts.get? ref.service with
    | none => rfl
    | some ports => cases h : ports.get? name <;> simp [h, Except.toOption]

variable [PatternLanguage]

/-- Whether the path is none, or can be read. -/
def hasReadablePath (c : Candidate) : Bool :=
  match c.path with
  | none => true
  | some text => text.isEmpty || (PatternLanguage.compile? text).isSome

/-- Whether a path of a request is accepted: the path of the candidate is none, or matches. -/
def accepts (c : Candidate) (path : String) : Bool :=
  match c.path with
  | none => true
  | some text =>
    text.isEmpty || (PatternLanguage.compile? text).any (PatternLanguage.isMatch · path)

variable [AuthorityGrammar]

/-- The address of a candidate, if it refers to a port of a service, has that port, and its address
is one. -/
def url? (c : Candidate) : Option BackendUrl := do
  let ref ← BackendRef.ofBackend? c.backend
  let port ← c.port? ref
  (BackendUrl.http ref.service port).toOption

/-- Whether a candidate can be used: it has an address, and its path can be read. -/
def isUsable (c : Candidate) : Bool := c.url?.isSome && c.hasReadablePath

/-- The checks of a candidate come one after the other: its address first, and then its path. -/
theorem rule?_eq (c : Candidate) :
    c.rule? = c.url?.bind fun url =>
      (Rule.compilePath c.path).toOption.map fun path => ⟨path, url⟩ := by
  unfold rule? compile Rule.compile url?
  cases BackendRef.ofBackend? c.backend with
  | none => rfl
  | some ref =>
    change _ = Option.bind ((c.port? ref).bind _) _
    rw [← toOption_resolvePort]
    cases hp : resolvePort c.source.servicePorts ref with
    | error f => simp [hp, Except.toOption]
    | ok port =>
      cases hu : BackendUrl.http ref.service port with
      | error f => simp [hp, hu, Except.toOption]
      | ok url => cases Rule.compilePath c.path <;> simp [hp, hu, Except.toOption, Except.map]

omit [AuthorityGrammar] in
/-- A path that can be read becomes a pattern that accepts what the candidate accepts. -/
theorem compilePath_cases (c : Candidate) :
    (c.hasReadablePath = false ∧ (Rule.compilePath c.path).toOption = none) ∨
      ∃ pattern, c.hasReadablePath = true ∧ (Rule.compilePath c.path).toOption = some pattern ∧
        ∀ url path, (Rule.mk pattern url).appliesTo path = c.accepts path := by
  unfold hasReadablePath accepts Rule.compilePath
  cases c.path with
  | none => exact .inr ⟨none, rfl, rfl, fun _ _ => rfl⟩
  | some text =>
    by_cases he : text.isEmpty
    · refine .inr ⟨none, ?_, ?_, fun _ _ => ?_⟩ <;> simp [he, Except.toOption, Rule.appliesTo]
    · cases hp : PatternLanguage.compile? text with
      | none => exact .inl (by simp [he, hp, Except.toOption])
      | some pattern =>
        refine .inr ⟨some pattern, ?_, ?_, fun _ _ => ?_⟩ <;>
          simp [he, hp, Except.toOption, Rule.appliesTo]

/-- A candidate compiles exactly if it can be used, and then keeps its address and its path. -/
theorem rule?_cases (c : Candidate) :
    (c.isUsable = false ∧ c.rule? = none) ∨
      ∃ rule, c.isUsable = true ∧ c.rule? = some rule ∧ c.url? = some rule.url ∧
        ∀ path, rule.appliesTo path = c.accepts path := by
  rw [rule?_eq]
  unfold isUsable
  cases c.url? with
  | none => exact .inl ⟨rfl, rfl⟩
  | some url =>
    obtain ⟨hr, hc⟩ | ⟨pattern, hr, hc, ha⟩ := c.compilePath_cases
    · exact .inl ⟨by simp [hr], by simp [hc]⟩
    · exact .inr ⟨⟨pattern, url⟩, by simp [hr], by simp [hc], rfl, ha url⟩

/-- The first rule that applies is that of the first usable candidate that accepts the path. -/
theorem find?_appliesTo (l : List Candidate) (path : String) :
    ((l.filterMap rule?).find? (·.appliesTo path)).map Rule.url =
      ((l.filter isUsable).find? (·.accepts path)).bind url? := by
  induction l with
  | nil => rfl
  | cons c l ih =>
    -- A candidate drops out of both lists, or is at the head of both.
    obtain ⟨hu, hc⟩ | ⟨rule, hu, hc, hurl, ha⟩ := c.rule?_cases
    · rw [List.filterMap_cons_none hc, List.filter_cons_of_neg (by simp [hu]), ih]
    · rw [List.filterMap_cons_some hc, List.filter_cons_of_pos hu, List.find?_cons,
        List.find?_cons, ha path]
      cases c.accepts path with
      | false => exact ih
      | true => exact hurl.symm

end Candidate

section

variable [AuthorityGrammar] [PatternLanguage]

/-- The backend for a path of a host, read off the candidates: those that cannot be used are
dropped, those of other hosts do not count, and the first that accepts the path wins. -/
def Payload.firstMatch (p : Payload) (host path : String) : Except NotFound BackendUrl :=
  let usable := p.candidates.filter Candidate.isUsable
  let served := usable.filter (·.host = Host.stripPort host)
  match (served.find? (·.accepts path)).bind Candidate.url? with
  | some url => .ok url
  | none => .error .backend

/-- A table answers like its payload, for every host and path. -/
theorem RoutingTable.backend_ofPayload (p : Payload) (host path : String) :
    (ofPayload p).backend host path = p.firstMatch host path := by
  have hrules : ((ofPayload p).rules.get? (Host.stripPort host)).getD [] =
      (p.candidates.filter (·.host = Host.stripPort host)).filterMap Candidate.rule? :=
    TableBuild.rulesUnder_ofPayload p (Host.stripPort host)
  have hcomm : (p.candidates.filter (·.host = Host.stripPort host)).filter Candidate.isUsable =
      (p.candidates.filter Candidate.isUsable).filter (·.host = Host.stripPort host) := by
    rw [List.filter_filter, List.filter_filter]
    exact List.filter_congr fun c _ => Bool.and_comm _ _
  have hfind := Candidate.find?_appliesTo
    (p.candidates.filter (·.host = Host.stripPort host)) path
  rw [hcomm, ← hrules] at hfind
  simp only [backend, Payload.firstMatch]
  rw [← hfind]
  cases ((ofPayload p).rules.get? (Host.stripPort host)).getD [] |>.find? (·.appliesTo path) with
  | none => rfl
  | some rule => rfl

end

-- The first rule cannot be used, the second is for another path, and the third is served by a named port.
example :
    (RoutingTable.ofPayload {
      ingresses := [{
        ingress := { rules := [{ host := some "tea.shop", paths := some [
          { path := some "/", backend := {} },
          { path := some "/leaf", backend := ⟨some ⟨"leaf", some { number := some 9000 }⟩⟩ },
          { path := some "/cup", backend := ⟨some ⟨"tea", some { name := some "http" }⟩⟩ }] }] }
        servicePorts := .ofList [("tea", .ofList [("http", 8080)])] }] }).backend
      "tea.shop:8443" "/cup/green" = .ok ⟨⟨"tea:8080"⟩, 8080, by decide⟩ := by decide +kernel

end IngressProxy

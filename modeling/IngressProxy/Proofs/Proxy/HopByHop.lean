import IngressProxy.Proofs.Http.ConnectionOptions
import IngressProxy.Proofs.Proxy.AddressChain
import IngressProxy.Proofs.Proxy.Forward

namespace IngressProxy

open Http

namespace Forward

section Strip

variable {h : Headers} {n : HeaderName}

theorem mem_listedNames (hn : n.IsName) : n ∈ listedNames h ↔ h.Names n := by
  simp only [listedNames, List.mem_filterMap, hn.ofText?_eq_some_iff, Headers.names_iff hn]

/-- Whether a name is passed on as is due to it: not at all if it concerns a single connection, and
else with all its values in their order. -/
structure PassedOn (h passed : Headers) (n : HeaderName) : Prop where
  dropped : n ∈ hopByHop ∨ h.Names n → passed.values n = []
  kept : n ∉ hopByHop → ¬h.Names n → passed.values n = h.values n

theorem passedOn_stripHopByHop (hn : n.IsName) : PassedOn h (stripHopByHop h) n := by
  have hmem : n ∈ listedNames h ++ hopByHop ↔ n ∈ hopByHop ∨ h.Names n := by
    rw [List.mem_append, mem_listedNames hn, or_comm]
  constructor
  · intro hconnection
    rw [stripHopByHop, Headers.values_eraseAll, if_pos (hmem.mpr hconnection)]
  · intro hhop hnames
    rw [stripHopByHop, Headers.values_eraseAll, if_neg (hmem.not.mpr (not_or.mpr ⟨hhop, hnames⟩))]

/-- A client asks for a change of protocol if its connection options say so and it names one. -/
theorem upgradeProtocol?_eq_some_iff {v : HeaderValue} :
    upgradeProtocol? h = some v ↔ h.Names .upgrade ∧ h.first? .upgrade = some v := by
  have hasked : h.connectionTokens.any (equalsIgnoringCase · "upgrade") = true ↔
      h.Names .upgrade := by
    rw [Headers.names_iff (by decide +kernel), List.any_eq_true]
    simp only [equalsIgnoringCase, decide_eq_true_eq]
    rfl
  rw [upgradeProtocol?, ← hasked]
  split <;> simp_all

end Strip

section Request

variable (r : Request) (client : IpAddress)

theorem values_baseHeaders_of_ne {n : HeaderName} (hhost : n ≠ .host) (hchain : n ≠ .forwardedFor) :
    (baseHeaders r client).values n = (stripHopByHop r.headers).values n := by
  rw [baseHeaders, values_appendForwardedFor_of_ne client hchain]
  cases hostValue? r with
  | some v => exact (Headers.values_set _ _ _ _).trans (if_neg hhost.symm)
  | none => rfl

theorem values_forwardedFor_baseHeaders :
    (baseHeaders r client).values .forwardedFor =
      [.lit (", ".intercalate
        ((stripHopByHop r.headers).readable .forwardedFor ++ [client.render]))] := by
  have hne : HeaderName.host ≠ .forwardedFor := by decide
  rw [baseHeaders, values_forwardedFor_appendForwardedFor]
  cases hostValue? r with
  | some v => simp only [Headers.readable, Headers.values_set, if_neg hne]
  | none => rfl

theorem isName_of_mem_hopByHop : ∀ n ∈ hopByHop, n.IsName := by decide +kernel

theorem values_baseHeaders_of_mem_hopByHop {n : HeaderName} (hn : n ∈ hopByHop) :
    (baseHeaders r client).values n = [] := by
  have hhost : n ≠ .host := by
    rintro rfl
    exact absurd hn (by decide)
  have hchain : n ≠ .forwardedFor := by
    rintro rfl
    exact absurd hn (by decide)
  rw [values_baseHeaders_of_ne r client hhost hchain]
  exact (passedOn_stripHopByHop (isName_of_mem_hopByHop n hn)).dropped (.inl hn)

/-- The two fields that ask for a change of protocol are those of the proxy. -/
theorem values_upgrade_requestHeaders :
    (requestHeaders r client).values .connection =
      ((upgradeProtocol? r.headers).map fun _ => .lit "upgrade").toList ∧
    (requestHeaders r client).values .upgrade = (upgradeProtocol? r.headers).toList := by
  have hne : HeaderName.upgrade ≠ .connection := by decide
  simp only [requestHeaders]
  cases upgradeProtocol? r.headers with
  | some v => simp [Headers.values_set, hne]
  | none =>
    exact ⟨values_baseHeaders_of_mem_hopByHop r client (by decide),
      values_baseHeaders_of_mem_hopByHop r client (by decide)⟩

/-- What a backend is sent, name by name. The host is the first that the client names, or else the
authority, even where the client lists that name for its connection. The change of protocol is asked
for anew if the client asks for one, with the first protocol that it names. The chain of addresses is
one value that ends in the address of the client, and is begun anew where the client lists it for its
connection. All other names are passed on as is due to them. -/
theorem values_request (hr : r.uri.IsWellFormed) (url : BackendUrl) :
    (request url r client).headers.values .host =
      (r.headers.first? .host <|> r.uri.authority.map fun a => HeaderValue.lit a.text).toList ∧
    (∀ v, r.headers.Names .upgrade → r.headers.first? .upgrade = some v →
      (request url r client).headers.values .connection = [.lit "upgrade"] ∧
      (request url r client).headers.values .upgrade = [v]) ∧
    (¬(r.headers.Names .upgrade ∧ (r.headers.first? .upgrade).isSome) →
      (request url r client).headers.values .connection = [] ∧
      (request url r client).headers.values .upgrade = []) ∧
    (r.headers.Names .forwardedFor →
      (request url r client).headers.values .forwardedFor = [.lit client.render]) ∧
    (¬r.headers.Names .forwardedFor →
      (request url r client).headers.values .forwardedFor =
        [.lit (", ".intercalate (r.headers.readable .forwardedFor ++ [client.render]))]) ∧
    ∀ n : HeaderName, n.IsName → n ∉ [.host, .connection, .upgrade, .forwardedFor] →
      PassedOn r.headers (request url r client).headers n := by
  simp only [request]
  -- Of the earlier addresses the chain has what is left once the fields of the connection are out.
  have hstripped := passedOn_stripHopByHop (h := r.headers) (n := .forwardedFor) (by decide +kernel)
  have hchain := values_requestHeaders_of_ne r client (n := .forwardedFor) (by decide) (by decide)
  rw [values_forwardedFor_baseHeaders] at hchain
  obtain ⟨hconnection, hupgrade⟩ := values_upgrade_requestHeaders r client
  refine ⟨?_, fun v hnames hv => ?_, fun hnot => ?_, fun hnames => ?_, fun hnames => ?_,
    fun n hn hother => ?_⟩
  · rw [values_host_requestHeaders]
    cases hfirst : r.headers.first? .host with
    | some v => rw [hostValue?_of_first? hfirst]; rfl
    | none => rw [hostValue?_of_first?_none hr hfirst]; rfl
  · rw [hconnection, hupgrade, upgradeProtocol?_eq_some_iff.mpr ⟨hnames, hv⟩]
    exact ⟨rfl, rfl⟩
  · have hnone : upgradeProtocol? r.headers = none := by
      rw [Option.eq_none_iff_forall_ne_some]
      intro v hv
      obtain ⟨hnames, hv⟩ := upgradeProtocol?_eq_some_iff.mp hv
      exact hnot ⟨hnames, Option.isSome_of_mem hv⟩
    rw [hconnection, hupgrade, hnone]
    exact ⟨rfl, rfl⟩
  · rw [hchain, Headers.readable, hstripped.dropped (.inr hnames)]
    simp
  · rw [hchain, Headers.readable, hstripped.kept (by decide) hnames, Headers.readable]
  · simp only [List.mem_cons, List.not_mem_nil, or_false, not_or] at hother
    obtain ⟨hhost, hc, hu, hf⟩ := hother
    have hvalues := (values_requestHeaders_of_ne r client hc hu).trans
      (values_baseHeaders_of_ne r client hhost hf)
    have hpassed := passedOn_stripHopByHop (h := r.headers) hn
    exact ⟨fun h => hvalues.trans (hpassed.dropped h),
      fun hhop hnames => hvalues.trans (hpassed.kept hhop hnames)⟩

/-- A request that lists three of the four names for its connection, and one more in capitals. -/
def chainedRequest : Request where
  uri := { target := ⟨"/leaf", none⟩ }
  headers := ⟨[
    (.host, .lit "tea.example.com"), (.host, .lit "other.example.com"),
    (.connection, .lit "host,\tX-Trace , upgrade"), (.connection, .lit " x-forwarded-for"),
    (.upgrade, .lit "websocket"), (.upgrade, .lit "h2c"),
    (.forwardedFor, .lit "192.0.2.7"), (⟨"x-trace"⟩, .lit "a"), (⟨"accept"⟩, .lit "text/html"),
    (.te, .lit "trailers"), (⟨"accept"⟩, .lit "*/*")]⟩

theorem values_request_chainedRequest :
    ∃ sent, Handler.dispatch Handler.teaTable chainedRequest (.v4 10 0 0 1) =
        .send Handler.teaUrl sent ∧
      sent.headers.values .host = [.lit "tea.example.com"] ∧
      sent.headers.values .connection = [.lit "upgrade"] ∧
      sent.headers.values .upgrade = [.lit "websocket"] ∧
      sent.headers.values .forwardedFor = [.lit "10.0.0.1"] ∧
      sent.headers.values .te = [] ∧ sent.headers.values ⟨"x-trace"⟩ = [] ∧
      sent.headers.values ⟨"accept"⟩ = [.lit "text/html", .lit "*/*"] := by
  have hnames (n : HeaderName) (hn : n.IsName) : chainedRequest.headers.Names n ↔ _ :=
    Headers.names_iff hn
  obtain ⟨hhost, hupgrade, -, hchain, -, hothers⟩ :=
    values_request chainedRequest (.v4 10 0 0 1) (Uri.isWellFormed_of_target _) Handler.teaUrl
  obtain ⟨hconnection, hupgrade⟩ := hupgrade (.lit "websocket")
    ((hnames .upgrade (by decide +kernel)).mpr (by decide +kernel)) rfl
  have hchain := hchain ((hnames .forwardedFor (by decide +kernel)).mpr (by decide +kernel))
  have hte := (hothers .te (by decide +kernel) (by decide)).dropped (.inl (by decide))
  have htrace := (hothers ⟨"x-trace"⟩ (by decide +kernel) (by decide)).dropped
    (.inr ((hnames _ (by decide +kernel)).mpr (by decide +kernel)))
  have haccept := (hothers ⟨"accept"⟩ (by decide +kernel) (by decide)).kept (by decide)
    ((hnames _ (by decide +kernel)).not.mpr (by decide +kernel))
  exact ⟨_, Handler.dispatch_teaTable chainedRequest (by decide +kernel) _, hhost, hconnection,
    hupgrade, hchain, hte, htrace, haccept⟩

end Request

end Forward

namespace Handler

variable {table : RoutingTable} {backend : BackendUrl → Request → Option Response}
  {r sent : Request} {client : IpAddress} {url : BackendUrl} {answer : Response}

/-- The client gets the status and the body with which its backend answers, and of the fields those
that do not concern a single connection. Where the answer changes the protocol it gets all of them,
even if it has not asked for the change. -/
theorem handle_of_answer (hsend : dispatch table r client = .send url sent)
    (hanswer : backend url sent = some answer) :
    ∃ out, handle table backend r client = (.proxied, out) ∧ out.status = answer.status ∧
      out.body = answer.body ∧
      (answer.status ≠ Status.switchingProtocols →
        ∀ n : HeaderName, n.IsName → Forward.PassedOn answer.headers out.headers n) ∧
      (answer.status = Status.switchingProtocols → out.headers = answer.headers) := by
  refine ⟨Forward.response answer, ?_, ?_⟩
  · simp [handle, hsend, conclude, hanswer]
  · by_cases hswitching : answer.status = Status.switchingProtocols
    · simp [Forward.response, hswitching]
    · simp only [Forward.response, if_neg hswitching]
      exact ⟨trivial, trivial, fun _ n hn => Forward.passedOn_stripHopByHop hn,
        fun h => absurd h hswitching⟩

def answering (answer : Response) : BackendUrl → Request → Option Response := fun _ _ => some answer

/-- A response that lists a field of its own for its connection. -/
def tracedResponse : Response where
  status := 404
  headers := ⟨[
    (.connection, .lit "close ,X-Trace"), (⟨"x-trace"⟩, .lit "a"), (.contentType, .lit "text/html"),
    (.trailer, .lit "expires"), (⟨"set-cookie"⟩, .lit "a=1"), (⟨"set-cookie"⟩, .lit "b=2")]⟩

theorem handle_of_answer_tracedResponse :
    ∃ out, handle teaTable (answering tracedResponse) leafRequest (.v4 10 0 0 1) =
        (.proxied, out) ∧
      out.status = 404 ∧ out.headers.values .connection = [] ∧ out.headers.values .trailer = [] ∧
      out.headers.values ⟨"x-trace"⟩ = [] ∧
      out.headers.values ⟨"set-cookie"⟩ = [.lit "a=1", .lit "b=2"] := by
  have hsend := dispatch_teaTable leafRequest (by decide +kernel) (.v4 10 0 0 1)
  have hnames (n : HeaderName) (hn : n.IsName) : tracedResponse.headers.Names n ↔ _ :=
    Headers.names_iff hn
  obtain ⟨out, hout, hstatus, -, hpassed, -⟩ :=
    handle_of_answer hsend (show answering tracedResponse teaUrl _ = some tracedResponse from rfl)
  have hpassed := hpassed (by decide)
  have hconnection := (hpassed .connection (by decide +kernel)).dropped (.inl (by decide))
  have htrailer := (hpassed .trailer (by decide +kernel)).dropped (.inl (by decide))
  have htrace := (hpassed ⟨"x-trace"⟩ (by decide +kernel)).dropped
    (.inr ((hnames _ (by decide +kernel)).mpr (by decide +kernel)))
  have hcookies := (hpassed ⟨"set-cookie"⟩ (by decide +kernel)).kept (by decide)
    ((hnames _ (by decide +kernel)).not.mpr (by decide +kernel))
  exact ⟨out, hout, hstatus, hconnection, htrailer, htrace, hcookies⟩

def switchingResponse : Response where
  status := 101
  headers := ⟨[(.connection, .lit "upgrade"), (.upgrade, .lit "websocket")]⟩

/-- From a backend that changes the protocol unasked a client gets the fields of a connection. -/
theorem handle_of_answer_unasked :
    leafRequest.headers.contains .upgrade = false ∧ ¬leafRequest.headers.Names .upgrade ∧
    ∃ out, handle teaTable (answering switchingResponse) leafRequest (.v4 10 0 0 1) =
        (.proxied, out) ∧
      HeaderName.connection ∈ Forward.hopByHop ∧ out.headers.values .connection ≠ [] := by
  have hsend := dispatch_teaTable leafRequest (by decide +kernel) (.v4 10 0 0 1)
  refine ⟨by decide +kernel, ?_, Forward.response switchingResponse, ?_, by decide, by decide +kernel⟩
  · rw [Headers.names_iff (by decide +kernel)]
    decide +kernel
  · simp [handle, hsend, conclude, answering]

end Handler

end IngressProxy

import IngressProxy.Proofs.Http.Headers
import IngressProxy.Proofs.Uri.WellFormed
import IngressProxy.Proxy.Handler

namespace IngressProxy

open Http

namespace Forward

variable (r : Request) (client : IpAddress)

theorem values_appendForwardedFor_of_ne {n : HeaderName} (hn : n ≠ .forwardedFor) (h : Headers) :
    (appendForwardedFor h client).values n = h.values n := by
  simp only [appendForwardedFor]
  split
  · rw [Headers.values_set, if_neg hn.symm]
  · rfl

theorem values_requestHeaders_of_ne {n : HeaderName} (hconnection : n ≠ .connection)
    (hupgrade : n ≠ .upgrade) :
    (requestHeaders r client).values n = (baseHeaders r client).values n := by
  rw [requestHeaders]
  split
  · rw [Headers.values_set, if_neg hupgrade.symm, Headers.values_set, if_neg hconnection.symm]
  · rfl

/-- The host is sent even if the client lists its field among those of the connection. -/
theorem values_host_baseHeaders : (baseHeaders r client).values .host = (hostValue? r).toList := by
  rw [baseHeaders, values_appendForwardedFor_of_ne client (by decide)]
  cases hhost : hostValue? r with
  | some v => simp [Headers.values_set]
  | none =>
    cases hfirst : r.headers.first? .host with
    | some v => simp [hostValue?, hfirst] at hhost
    | none =>
      have hvalues := Headers.values_eq_nil_of_first? _ _ hfirst
      simp [stripHopByHop, Headers.values_eraseAll, hvalues]

theorem values_host_requestHeaders :
    (requestHeaders r client).values .host = (hostValue? r).toList := by
  rw [values_requestHeaders_of_ne r client (by decide) (by decide), values_host_baseHeaders]

variable {r}

theorem hostValue?_of_first? {v : HeaderValue} (h : r.headers.first? .host = some v) :
    hostValue? r = some v := by
  simp [hostValue?, h]

/-- Without a host field the backend is told the authority, since that is printable. -/
theorem hostValue?_of_first?_none (hr : r.uri.IsWellFormed) (h : r.headers.first? .host = none) :
    hostValue? r = r.uri.authority.map fun a => .lit a.text := by
  cases ha : r.uri.authority with
  | none => simp [hostValue?, h, ha]
  | some a =>
    have htext := HeaderValue.ofText?_eq_lit (hr.authority a ha).isReadable
    simp [hostValue?, h, ha, htext]

end Forward

namespace Uri

theorem path_eq_empty_iff (u : Uri) : u.path = "" ↔ u.scheme = none ∧ u.target = Target.blank := by
  have hpath : u.target.path ≠ "" := by
    unfold Target.path
    split <;> simp_all
  by_cases hblank : u.target = Target.blank ∧ u.scheme = none
  · simp [path, hblank]
  · simpa [path, hblank, hpath] using fun hscheme htarget => hblank ⟨htarget, hscheme⟩

/-- A URI without a path is an authority alone, and has no query either. -/
theorem IsWellFormed.target_of_target?_eq_none {u : Uri} (hu : u.IsWellFormed)
    (h : u.target? = none) : u.path = "" ∧ u.target = Target.blank := by
  unfold target? at h
  split_ifs at h with hform
  obtain ⟨hscheme, hauthority⟩ : u.scheme = none ∧ u.authority.isSome = true := by
    simpa [Option.isSome_iff_ne_none] using hform
  have hblank := hu.alone hscheme hauthority
  exact ⟨(path_eq_empty_iff u).mpr ⟨hscheme, hblank⟩, hblank⟩

theorem eq_target_of_target? {u : Uri} {t : Target} (h : u.target? = some t) : t = u.target := by
  unfold target? at h
  split_ifs at h
  exact (Option.some.inj h).symm

end Uri

namespace BackendUrl

variable (b : BackendUrl) {u : Uri} (hu : u.IsWellFormed)

include hu

theorem path_uri : (b.uri u.target?).path = if u.path = "" then "/" else u.path := by
  have hpath (t : Option Target) : (b.uri t).path = (t.getD Target.root).path := by
    simp [uri, Uri.path]
  rw [hpath]
  cases htarget : u.target? with
  | none =>
    rw [if_pos (hu.target_of_target?_eq_none htarget).1]
    rfl
  | some t =>
    obtain rfl := Uri.eq_target_of_target? htarget
    by_cases hempty : u.path = ""
    · rw [if_pos hempty, ((Uri.path_eq_empty_iff u).mp hempty).2]
      rfl
    · have hnot : ¬(u.target = Target.blank ∧ u.scheme = none) := fun h =>
        hempty ((Uri.path_eq_empty_iff u).mpr h.symm)
      simp only [if_neg hempty]
      simp [Uri.path, hnot]

theorem query_uri : (b.uri u.target?).target.query = u.target.query := by
  cases htarget : u.target? with
  | none =>
    rw [(hu.target_of_target?_eq_none htarget).2]
    rfl
  | some t =>
    rw [Uri.eq_target_of_target? htarget]
    rfl

end BackendUrl

namespace Handler

variable {table : RoutingTable} {r sent : Request} {client : IpAddress} {url : BackendUrl}

theorem dispatch_eq_send (h : dispatch table r client = .send url sent) :
    table.backend (requestHost r) r.uri.path = .ok url ∧ sent = Forward.request url r client := by
  unfold dispatch at h
  split at h
  · rename_i url' hurl
    cases h
    exact ⟨hurl, rfl⟩
  · cases h

theorem requestHost_of_readable {v : HeaderValue} {host : String}
    (h : r.headers.first? .host = some v) (hv : v.readable? = some host) :
    requestHost r = host := by
  simp [requestHost, h, hv]

theorem requestHost_of_unreadable {v : HeaderValue}
    (h : r.headers.first? .host = some v) (hv : v.readable? = none) :
    requestHost r = (r.uri.authority.map Authority.text).getD "" := by
  simp [requestHost, h, hv]

theorem requestHost_of_absent (h : r.headers.first? .host = none) :
    requestHost r = (r.uri.authority.map Authority.text).getD "" := by
  simp [requestHost, h]

/-- The host by which a request is routed is the one that its backend is told, unless the client
names a host that is not readable: that one is passed on as it came, and routing takes the authority.
The path by which it is routed is the one that its backend is asked for, unless there is none, as in
a URI that is an authority alone: then the root is asked for. The query stays as it is. -/
theorem target_of_send (hr : r.uri.IsWellFormed) (h : dispatch table r client = .send url sent) :
    table.backend (requestHost r) r.uri.path = .ok url ∧
    ((∀ v ∈ r.headers.first? .host, v.readable?.isSome = true) → requestHost r ≠ "" →
      sent.headers.values .host = [.lit (requestHost r)]) ∧
    (∀ v ∈ r.headers.first? .host, v.readable? = none →
      requestHost r = (r.uri.authority.map Authority.text).getD "" ∧
      sent.headers.values .host = [v]) ∧
    sent.uri.path = (if r.uri.path = "" then "/" else r.uri.path) ∧
    (r.uri.path = "" ↔ r.uri.scheme = none ∧ r.uri.target = Target.blank) ∧
    sent.uri.target.query = r.uri.target.query := by
  obtain ⟨hurl, rfl⟩ := dispatch_eq_send h
  have hhost : (Forward.request url r client).headers.values .host =
      (Forward.hostValue? r).toList := Forward.values_host_requestHeaders r client
  refine ⟨hurl, fun hreadable hne => ?_, fun v hv hunreadable => ?_, url.path_uri hr,
    Uri.path_eq_empty_iff r.uri, url.query_uri hr⟩
  · rw [hhost]
    cases hfirst : r.headers.first? .host with
    | some v =>
      obtain ⟨host, hv⟩ := Option.isSome_iff_exists.mp (hreadable v hfirst)
      rw [Forward.hostValue?_of_first? hfirst, requestHost_of_readable hfirst hv,
        HeaderValue.eq_lit_of_readable? hv]
      rfl
    | none =>
      have htext := requestHost_of_absent hfirst
      rw [Forward.hostValue?_of_first?_none hr hfirst]
      cases ha : r.uri.authority with
      | none => simp [htext, ha] at hne
      | some a => simp [htext, ha]
  · exact ⟨requestHost_of_unreadable hv hunreadable, by
      rw [hhost, Forward.hostValue?_of_first? hv]; rfl⟩

def teaBackend : IngressBackend := ⟨some ⟨"tea", some { number := some 80 }⟩⟩

/-- A table with one host, which sends everything to one backend. -/
def teaTable : RoutingTable := RoutingTable.ofPayload {
  ingresses := [{ ingress := {
    rules := [{
      host := some "tea.example.com"
      paths := some [{ path := some "^/leaf$", backend := teaBackend }, { backend := teaBackend }] }] } }] }

def teaUrl : BackendUrl where
  authority := ⟨"tea:80"⟩
  port := ⟨80, by decide⟩

theorem dispatch_teaTable (r : Request)
    (h : teaTable.backend (requestHost r) r.uri.path = .ok teaUrl) (client : IpAddress) :
    dispatch teaTable r client = .send teaUrl (Forward.request teaUrl r client) := by
  rw [dispatch, h]

/-- A request whose client lists the host among the fields of its connection. -/
def leafRequest : Request where
  uri := { target := ⟨"/leaf", some "sort=age"⟩ }
  headers := ⟨[(.connection, .lit "close, host"), (.host, .lit "tea.example.com:8000")]⟩

/-- That request as it is read on its connection. -/
def leafInbound : Inbound where
  request := leafRequest
  framing := .absent
  keepAlive := false
  mayUpgrade := false

def leafBytes : Bytes :=
  Utf8.encode ("GET /leaf?sort=age HTTP/1.1\r\nConnection: close, host\r\n" ++
    "Host: tea.example.com:8000\r\n\r\n")

theorem target_of_send_leafRequest :
    Inbound.read leafBytes = .done (.ok (leafInbound, [])) [] ∧
    ∃ sent, dispatch teaTable leafRequest (.v4 10 0 0 1) = .send teaUrl sent ∧
      sent.headers.values .host = [.lit "tea.example.com:8000"] ∧ sent.uri.path = "/leaf" ∧
      sent.uri.target.query = some "sort=age" := by
  have hread : Inbound.read leafBytes = .done (.ok (leafInbound, [])) [] := by decide +kernel
  have hwell : leafRequest.uri.IsWellFormed := Inbound.isWellFormed_of_read hread
  have hsend := dispatch_teaTable leafRequest (by decide +kernel) (.v4 10 0 0 1)
  have hname : requestHost leafRequest = "tea.example.com:8000" := by decide +kernel
  have hreadable : ∀ v ∈ leafRequest.headers.first? .host, v.readable?.isSome = true := by
    rintro v ⟨⟩
    decide +kernel
  obtain ⟨-, hhost, -, hpath, -, hquery⟩ := target_of_send hwell hsend
  refine ⟨hread, _, hsend, ?_, hpath, hquery⟩
  rw [hhost hreadable (by rw [hname]; decide), hname]

/-- A request whose host field is not ASCII, next to an authority. -/
def accentedRequest : Request where
  uri := {
    scheme := some "http"
    authority := some ⟨"tea.example.com"⟩
    target := ⟨"/leaf", none⟩ }
  headers := ⟨[(.host, ⟨[116, 104, 0xC3, 0xA9]⟩)]⟩

def tunnelRequest : Request where
  method := "CONNECT"
  uri := { authority := some ⟨"tea.example.com:80"⟩ }

/-- Routing and forwarding take different hosts where the host field is not readable, and different
paths where there is none. -/
theorem target_of_send_disagreement :
    Uri.parse "http://tea.example.com/leaf" = .ok accentedRequest.uri ∧
    Uri.parse "tea.example.com:80" = .ok tunnelRequest.uri ∧
    (∃ sent, dispatch teaTable accentedRequest (.v4 10 0 0 1) = .send teaUrl sent ∧
      requestHost accentedRequest = "tea.example.com" ∧
      sent.headers.values .host ≠ [.lit "tea.example.com"]) ∧
    ∃ sent, dispatch teaTable tunnelRequest (.v4 10 0 0 1) = .send teaUrl sent ∧
      tunnelRequest.uri.path = "" ∧ sent.uri.path = "/" := by
  have haccented := dispatch_teaTable accentedRequest (by decide +kernel) (.v4 10 0 0 1)
  have htunnel := dispatch_teaTable tunnelRequest (by decide +kernel) (.v4 10 0 0 1)
  refine ⟨by decide +kernel, by decide +kernel, ⟨_, haccented, by decide +kernel, ?_⟩,
    _, htunnel, rfl, rfl⟩
  have hhost := Forward.values_host_requestHeaders accentedRequest (.v4 10 0 0 1)
  rw [Forward.request, hhost]
  decide +kernel

end Handler

end IngressProxy

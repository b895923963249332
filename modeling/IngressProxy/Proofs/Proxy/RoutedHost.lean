import IngressProxy.Proofs.Proxy.Forward
import IngressProxy.Proofs.Routing.HostKey

namespace IngressProxy

namespace Handler

open Http

/-- The host under which the rules for a request are looked up. -/
def hostKey (r : Request) : String := Host.stripPort (requestHost r)

theorem requestHost_of_authority {r : Request} {a : Authority}
    (hfield : (r.headers.first? .host).bind HeaderValue.readable? = none)
    (ha : r.uri.authority = some a) : requestHost r = a.text := by
  simp [requestHost, hfield, ha]

/-- A request whose first host field is absent or not readable is routed by the authority of its URI.
Where nothing stands before the host of that authority, the rules are looked up under exactly this
host, free of its port. An authority may also start with the colon of its port and have no host: that
text is looked up as it is. -/
theorem hostKey_of_authority {r : Request} {a : Authority}
    (hfield : (r.headers.first? .host).bind HeaderValue.readable? = none)
    (ha : r.uri.authority = some a) (hwell : a.IsWellFormed) (huser : '@' ∉ a.text.toList) :
    (∀ (table : RoutingTable) (path : String),
      table.backend (requestHost r) path = table.serving (hostKey r) path) ∧
    (a.host ≠ "" → hostKey r = a.host ∧ Host.IsBare a.host) ∧
    (a.host = "" → hostKey r = a.text ∧ a.text.toList.head? = some ':') := by
  have hhost : a.host = String.ofList (Authority.hostChars a.text.toList) := by
    rw [Authority.host, Authority.afterUser_eq_self huser]
  have hkey : hostKey r = if a.host = "" then a.text else a.host := by
    rw [hostKey, requestHost_of_authority hfield ha, Host.stripPort,
      Authority.stripPortChars_eq hwell.mem_close_of_mem_open, hhost]
    simp only [String.ofList_eq_empty_iff]
    split_ifs <;> simp
  refine ⟨fun table path => rfl, fun hne => ⟨?_, ?_⟩, fun hempty => ⟨?_, ?_⟩⟩
  · rw [hkey, if_neg hne]
  · rw [hhost]
    exact Authority.isBare_hostChars huser hwell.mem_close_of_mem_open
  · rw [hkey, if_pos hempty]
  · exact hwell.head?_of_host_eq_empty huser hempty

/-- A request for an address, which it names in its URI only. -/
def literalRequest : Request where
  uri := {
    scheme := some "http"
    authority := some ⟨"[2001:db8::1]:8080"⟩
    target := ⟨"/leaf", none⟩ }

theorem hostKey_of_authority_literalRequest :
    Uri.parse "http://[2001:db8::1]:8080/leaf" = .ok literalRequest.uri ∧
    ∃ r, Http2.received? literalRequest = some r ∧ hostKey r = "[2001:db8::1]" := by
  have hparse : Uri.parse "http://[2001:db8::1]:8080/leaf" = .ok literalRequest.uri := by
    decide +kernel
  obtain ⟨r, hr, hfield, hauthority⟩ : ∃ r, Http2.received? literalRequest = some r ∧
      r.headers.first? .host = none ∧ r.uri.authority = some ⟨"[2001:db8::1]:8080"⟩ :=
    ⟨_, rfl, by decide +kernel, rfl⟩
  have hwell := Http2.isWellFormed_of_received? (Uri.isWellFormed_of_parse hparse) hr
  obtain ⟨-, hhost, -⟩ :=
    hostKey_of_authority (by simp [hfield]) hauthority (hwell.authority _ hauthority) (by decide)
  have hliteral : Authority.host ⟨"[2001:db8::1]:8080"⟩ = "[2001:db8::1]" := by decide +kernel
  refine ⟨hparse, r, hr, ?_⟩
  rw [(hhost (by rw [hliteral]; decide)).1, hliteral]

def userRequest : Request where
  uri := {
    scheme := some "http"
    authority := some ⟨"user:pw@tea.example.com"⟩
    target := ⟨"/leaf", none⟩ }

def hostlessRequest : Request where
  uri := {
    scheme := some "http"
    authority := some ⟨":80"⟩
    target := ⟨"/leaf", none⟩ }

/-- The host of an authority is not looked up where something stands before it, nor where there is
none. -/
theorem hostKey_disagreement :
    (Uri.parse "http://user:pw@tea.example.com/leaf" = .ok userRequest.uri ∧
      Authority.host ⟨"user:pw@tea.example.com"⟩ = "tea.example.com" ∧
      hostKey userRequest = "user") ∧
    Uri.parse "http://:80/leaf" = .ok hostlessRequest.uri ∧
    Authority.host ⟨":80"⟩ = "" ∧ hostKey hostlessRequest = ":80" := by
  refine ⟨⟨?_, ?_, ?_⟩, ?_, ?_, ?_⟩ <;> decide +kernel

end Handler

end IngressProxy

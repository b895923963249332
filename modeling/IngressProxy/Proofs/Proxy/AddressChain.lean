import IngressProxy.Proofs.Http.Headers
import IngressProxy.Proxy.Forward

namespace IngressProxy

/-- What has been put together once can be put together with more. -/
theorem intercalate_intercalate (s : String) {l : List String} (hl : l ≠ []) (m : List String) :
    s.intercalate (s.intercalate l :: m) = s.intercalate (l ++ m) := by
  cases m with
  | nil => rw [String.intercalate_singleton, List.append_nil]
  | cons t m =>
    rw [String.intercalate_cons_cons, String.intercalate_append_of_ne_nil hl (List.cons_ne_nil t m)]

namespace Forward

variable (h : Headers) (client : IpAddress) (clients : List IpAddress)

theorem isReadable_chain :
    IsReadable (", ".intercalate (h.readable .forwardedFor ++ clients.map IpAddress.render)) := by
  refine IsReadable.intercalate (by simp [IsReadable]) fun t ht => ?_
  obtain hprior | hclient := List.mem_append.mp ht
  · obtain ⟨v, -, hv⟩ := List.mem_filterMap.mp hprior
    exact HeaderValue.isReadable_of_readable? hv
  · obtain ⟨client, -, rfl⟩ := List.mem_map.mp hclient
    exact client.isReadable_render

theorem ofText?_chain :
    HeaderValue.ofText? (", ".intercalate (h.readable .forwardedFor ++ [client.render])) =
      some (.lit (", ".intercalate (h.readable .forwardedFor ++ [client.render]))) :=
  HeaderValue.ofText?_eq_lit (isReadable_chain h [client])

/-- The chain of addresses is always a value, so that of the client is never left out. -/
theorem appendForwardedFor_eq_set :
    appendForwardedFor h client = h.set .forwardedFor
      (.lit (", ".intercalate (h.readable .forwardedFor ++ [client.render]))) := by
  simp only [appendForwardedFor, ofText?_chain]

theorem values_forwardedFor_appendForwardedFor :
    (appendForwardedFor h client).values .forwardedFor =
      [.lit (", ".intercalate (h.readable .forwardedFor ++ [client.render]))] := by
  rw [appendForwardedFor_eq_set, Headers.values_set, if_pos rfl]

theorem readable_appendForwardedFor :
    (appendForwardedFor h client).readable .forwardedFor =
      [", ".intercalate (h.readable .forwardedFor ++ [client.render])] :=
  Headers.readable_of_values (values_forwardedFor_appendForwardedFor h client)
    (isReadable_chain h [client])

/-- The other fields keep their values and their order. -/
theorem erase_appendForwardedFor :
    (appendForwardedFor h client).erase .forwardedFor = h.erase .forwardedFor := by
  rw [appendForwardedFor_eq_set, Headers.erase_set]

/-- Each proxy reads one value, that of the proxy before it, which has all the earlier addresses. -/
theorem values_forwardedFor_foldl :
    ((client :: clients).foldl appendForwardedFor h).values .forwardedFor =
      [.lit (", ".intercalate
        (h.readable .forwardedFor ++ (client :: clients).map IpAddress.render))] := by
  induction clients generalizing h client with
  | nil => exact values_forwardedFor_appendForwardedFor h client
  | cons next clients ih =>
    have hne : h.readable .forwardedFor ++ [client.render] ≠ [] := by simp
    rw [List.foldl_cons, ih, readable_appendForwardedFor, List.singleton_append,
      intercalate_intercalate _ hne, List.append_assoc]
    rfl

theorem erase_foldl :
    (clients.foldl appendForwardedFor h).erase .forwardedFor = h.erase .forwardedFor := by
  induction clients generalizing h with
  | nil => rfl
  | cons client clients ih => rw [List.foldl_cons, ih, erase_appendForwardedFor]

theorem values_foldl_of_ne {n : HeaderName} (hn : n ≠ .forwardedFor) :
    (clients.foldl appendForwardedFor h).values n = h.values n := by
  have hvalues := congrArg (Headers.values · n) (erase_foldl h clients)
  simpa only [Headers.values_erase, if_neg hn.symm] using hvalues

/-- A request that passes one proxy after the other ends up with one value for the chain, which can be
read: the readable ones that it had before, and behind them the addresses, all in their order. Its other
fields are as they were. At no proxy does the chain fail to be a value. -/
theorem addresses_kept (hne : clients ≠ []) :
    (clients.foldl appendForwardedFor h).values .forwardedFor =
      [.lit (", ".intercalate (h.readable .forwardedFor ++ clients.map IpAddress.render))] ∧
    (clients.foldl appendForwardedFor h).readable .forwardedFor =
      [", ".intercalate (h.readable .forwardedFor ++ clients.map IpAddress.render)] ∧
    (clients.foldl appendForwardedFor h).erase .forwardedFor = h.erase .forwardedFor ∧
    (∀ n, n ≠ .forwardedFor → (clients.foldl appendForwardedFor h).values n = h.values n) ∧
    ∀ (passed : Headers) (client : IpAddress), ∃ v,
      HeaderValue.ofText?
        (", ".intercalate (passed.readable .forwardedFor ++ [client.render])) = some v ∧
      appendForwardedFor passed client = passed.set .forwardedFor v := by
  obtain ⟨first, rest, rfl⟩ := List.exists_cons_of_ne_nil hne
  have hvalues := values_forwardedFor_foldl h first rest
  have hreadable := Headers.readable_of_values hvalues (isReadable_chain h (first :: rest))
  exact ⟨hvalues, hreadable, erase_foldl h _, fun n hn => values_foldl_of_ne h _ hn,
    fun passed client => ⟨_, ofText?_chain passed client, appendForwardedFor_eq_set passed client⟩⟩

/-- Fields with three values for the chain, of which one is not readable and one is empty. -/
def passedHeaders : Headers where
  entries := [
    (.forwardedFor, .lit "192.0.2.7"), (.host, .lit "tea.example.com"),
    (.forwardedFor, ⟨[0xC3, 0xA9]⟩), (.te, .lit "trailers"), (.forwardedFor, .lit "")]

/-- Two proxies on the way, of which the second one is reached from an address of eight groups. -/
def passedClients : List IpAddress := [.v4 10 0 0 1, .v6 [0x2001, 0xdb8, 0, 0, 0, 0, 0, 1]]

theorem addresses_kept_passedHeaders :
    passedClients ≠ [] ∧
      (passedClients.foldl appendForwardedFor passedHeaders).values .forwardedFor =
        [.lit "192.0.2.7, , 10.0.0.1, 2001:db8::1"] ∧
      (passedClients.foldl appendForwardedFor passedHeaders).erase .forwardedFor =
        ⟨[(.host, .lit "tea.example.com"), (.te, .lit "trailers")]⟩ := by
  have hne : passedClients ≠ [] := List.cons_ne_nil _ _
  have hchain : ", ".intercalate (passedHeaders.readable .forwardedFor ++
      passedClients.map IpAddress.render) = "192.0.2.7, , 10.0.0.1, 2001:db8::1" := by
    decide +kernel
  obtain ⟨hvalues, -, hothers, -⟩ := addresses_kept passedHeaders passedClients hne
  rw [hchain] at hvalues
  exact ⟨hne, hvalues, hothers.trans (by decide +kernel)⟩

end Forward

end IngressProxy

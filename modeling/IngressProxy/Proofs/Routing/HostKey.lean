import IngressProxy.Proofs.Uri.Host
import IngressProxy.Routing.Table

namespace IngressProxy

namespace Host

/-- Whether a text is a host that a port may follow: a name, which holds no colon and does not start
with a bracket, or an address in brackets. -/
def TakesPort (host : String) : Prop :=
  (host ≠ "" ∧ ':' ∉ host.toList ∧ host.toList.head? ≠ some '[') ∨
    ∃ address, host.toList = '[' :: (address ++ [']']) ∧ ']' ∉ address

theorem stripPortChars_literal {address : List Char} (h : ']' ∉ address) (rest : List Char) :
    stripPortChars ('[' :: (address ++ ']' :: rest)) = '[' :: (address ++ [']']) := by
  have htake : (address ++ ']' :: rest).takeWhile (· ≠ ']') = address :=
    takeWhile_ne_append h (by simp)
  rw [stripPortChars, if_pos rfl, if_pos (by simp), htake]

theorem stripPortChars_name {c : Char} {cs rest : List Char} (hbracket : c ≠ '[')
    (hcolon : ':' ∉ c :: cs) (hrest : ∀ d ∈ rest.head?, d = ':') :
    stripPortChars (c :: (cs ++ rest)) = c :: cs := by
  obtain ⟨hc, hcs⟩ : c ≠ ':' ∧ ':' ∉ cs := by simpa [eq_comm] using hcolon
  have htake : (cs ++ rest).takeWhile (· ≠ ':') = cs := takeWhile_ne_append hcs hrest
  rw [stripPortChars, if_neg hbracket, if_neg hc, htake]

/-- A host keeps all its characters if nothing follows it, or something that starts with a colon. -/
theorem stripPortChars_append {host : String} (h : TakesPort host) (rest : List Char)
    (hrest : ∀ c ∈ rest.head?, c = ':') :
    stripPortChars (host.toList ++ rest) = host.toList := by
  obtain ⟨hne, hcolon, hbracket⟩ | ⟨address, heq, hclose⟩ := h
  · cases hcs : host.toList with
    | nil => exact absurd (String.toList_eq_nil_iff.mp hcs) hne
    | cons c cs =>
      rw [hcs] at hcolon hbracket
      exact stripPortChars_name (by simpa using hbracket) hcolon hrest
  · rw [heq, List.cons_append, List.append_assoc]
    exact stripPortChars_literal hclose rest

theorem stripPort_of_takesPort {host : String} (h : TakesPort host) : stripPort host = host := by
  have hchars := stripPortChars_append h [] (by simp)
  rw [List.append_nil] at hchars
  rw [stripPort, hchars, String.ofList_toList]

theorem stripPort_append_port {host : String} (h : TakesPort host) (port : String) :
    stripPort (host ++ ":" ++ port) = host := by
  have hchars := stripPortChars_append h (':' :: port.toList) (by simp)
  rw [stripPort, String.toList_append, String.toList_append, List.append_assoc]
  exact (congrArg String.ofList hchars).trans String.ofList_toList

/-- Every text starts with what is left of it, which is all of it or a host that a port may follow. -/
theorem stripPortChars_split (cs : List Char) :
    stripPortChars cs = cs ∨
      ∃ rest, cs = stripPortChars cs ++ rest ∧ TakesPort (String.ofList (stripPortChars cs)) := by
  cases cs with
  | nil => exact .inl rfl
  | cons c cs =>
    by_cases hbracket : c = '['
    · subst hbracket
      by_cases hclose : ']' ∈ cs
      · obtain ⟨address, rest, rfl, haddress⟩ := List.eq_append_cons_of_mem hclose
        rw [stripPortChars_literal haddress]
        exact .inr ⟨rest, by simp, .inr ⟨address, String.toList_ofList, haddress⟩⟩
      · exact .inl (by simp [stripPortChars, hclose])
    · by_cases hcolon : c = ':'
      · exact .inl (by simp [stripPortChars, hcolon])
      · have hstrip : stripPortChars (c :: cs) = c :: cs.takeWhile (· ≠ ':') := by
          simp [stripPortChars, hbracket, hcolon]
        have hname : ':' ∉ c :: cs.takeWhile (· ≠ ':') := by
          rw [List.mem_cons, not_or]
          exact ⟨Ne.symm hcolon, fun hmem => by simpa using List.mem_takeWhile_imp hmem⟩
        rw [hstrip]
        refine .inr ⟨cs.dropWhile (· ≠ ':'), ?_, .inl ⟨by simp, ?_, ?_⟩⟩
        · rw [List.cons_append, List.takeWhile_append_dropWhile]
        · rwa [String.toList_ofList]
        · simpa using hbracket

theorem stripPort_split (text : String) :
    stripPort text = text ∨ ∃ rest, text = stripPort text ++ rest ∧ TakesPort (stripPort text) := by
  obtain hsame | ⟨rest, hrest, hhost⟩ := stripPortChars_split text.toList
  · exact .inl (by rw [stripPort, hsame, String.ofList_toList])
  · refine .inr ⟨String.ofList rest, ?_, hhost⟩
    rw [stripPort, ← String.ofList_append, ← hrest, String.ofList_toList]

theorem stripPort_idem (text : String) : stripPort (stripPort text) = stripPort text := by
  obtain hsame | ⟨-, -, hhost⟩ := stripPort_split text
  · rw [hsame, hsame]
  · exact stripPort_of_takesPort hhost

end Host

/-- A table looks for the host of an authority where it has one, and for the whole of it otherwise. -/
theorem Authority.stripPortChars_eq {cs : List Char} (h : '[' ∈ cs → ']' ∈ cs) :
    Host.stripPortChars cs = if hostChars cs = [] then cs else hostChars cs := by
  -- Both go by the first character: a bracket, a colon, or any other.
  cases cs with
  | nil => rfl
  | cons c cs =>
    by_cases hbracket : c = '['
    · subst hbracket
      have hclose : ']' ∈ cs := by simpa using h (List.mem_cons_self ..)
      simp [Host.stripPortChars, hostChars_bracket, hclose]
    · by_cases hcolon : c = ':'
      · subst hcolon
        simp [Host.stripPortChars, hostChars]
      · simp [Host.stripPortChars, hostChars_of_ne, hbracket, hcolon]

namespace RoutingTable

section

variable [PatternLanguage]

/-- What a table answers for a path by the rules of a host, which is taken as it is. -/
def serving (t : RoutingTable) (host path : String) : Except NotFound BackendUrl :=
  match ((t.rules.get? host).getD []).find? (·.appliesTo path) with
  | some rule => .ok rule.url
  | none => .error .backend

/-- A request for a host is served by the rules under that host, with a port behind it (which need not
even be a number) or without one. Of any text whatever, a front is looked up, and the same front for
that front. -/
theorem backend_append_port (t : RoutingTable) (path : String) :
    (∀ host, Host.TakesPort host → ∀ port,
      t.backend (host ++ ":" ++ port) path = t.backend host path ∧
      t.backend (host ++ ":" ++ port) path = t.serving host path) ∧
    ∀ text, (∃ rest, text = Host.stripPort text ++ rest) ∧
      Host.stripPort (Host.stripPort text) = Host.stripPort text := by
  refine ⟨fun host hhost port => ?_, fun text => ⟨?_, Host.stripPort_idem text⟩⟩
  · have hport := Host.stripPort_append_port hhost port
    have hbare := Host.stripPort_of_takesPort hhost
    constructor
    · rw [backend, backend, hport, hbare]
    · rw [backend, hport]
      rfl
  · obtain hsame | ⟨rest, hrest, -⟩ := Host.stripPort_split text
    · exact ⟨"", by rw [hsame, String.append_empty]⟩
    · exact ⟨rest, hrest⟩

end

def literalTable : RoutingTable where
  rules := OrderedMap.ofList [("[2001:db8::1]", [⟨none, ⟨⟨"leaf:9000"⟩, 9000, by decide⟩⟩])]

theorem backend_append_port_literalTable :
    Host.TakesPort "[2001:db8::1]" ∧
      literalTable.backend "[2001:db8::1]:8443" "/leaf" = .ok ⟨⟨"leaf:9000"⟩, 9000, by decide⟩ := by
  have hhost : Host.TakesPort "[2001:db8::1]" :=
    .inr ⟨"2001:db8::1".toList, by decide +kernel, by decide +kernel⟩
  refine ⟨hhost, ?_⟩
  exact ((backend_append_port literalTable "/leaf").1 _ hhost "8443").2.trans rfl

end RoutingTable

end IngressProxy

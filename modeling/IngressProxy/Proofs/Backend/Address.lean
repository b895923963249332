import IngressProxy.Backend.Url
import IngressProxy.CommandLine.Arguments
import IngressProxy.Proofs.Uri.Host

namespace IngressProxy

theorem not_mem_toDigits {c : Char} (hc : c.isDigit = false) (n : Nat) : c ∉ Nat.toDigits 10 n := by
  intro hmem
  have hdigit := Nat.isDigit_of_mem_toDigits (by decide) (by decide) hmem
  simp [hdigit] at hc

theorem Arguments.readPort?_toString (port : UInt16) :
    readPort? (toString port.toNat) = some port := by
  have hall : (Nat.toDigits 10 port.toNat).all Char.isDigit = true :=
    List.all_eq_true.mpr fun c hc => Nat.isDigit_of_mem_toDigits (by decide) (by decide) hc
  have hne : (Nat.toDigits 10 port.toNat).isEmpty = false :=
    List.isEmpty_eq_false_iff.mpr Nat.toDigits_ne_nil
  have hvalue : (Nat.toDigits 10 port.toNat).foldl (fun n c => n * 10 + (c.toNat - '0'.toNat)) 0 =
      port.toNat := by
    simp only [Nat.mul_comm _ 10]
    exact Nat.ofDigitChars_ten_toDigits
  have hread : LogFilter.readUnsigned? (Nat.toDigits 10 port.toNat) = some port.toNat := by
    unfold LogFilter.readUnsigned?
    split
    · rename_i rest hplus
      exact absurd (hplus ▸ List.mem_cons_self) (not_mem_toDigits (by decide) port.toNat)
    · simp only [hne, hall, hvalue]
      rfl
  have hlt : port.toNat ≤ 65535 := Nat.le_of_lt_succ port.toNat_lt
  rw [readPort?, readNumber?, Nat.toString_eq_ofList_toDigits, String.toList_ofList, hread]
  simp [hlt]

namespace Authority

/-- A bracket that is opened is not opened again. -/
theorem Scan.not_mem_open_of_run {s s' : Scan} {cs : List Char} (hs : s.opened = true)
    (h : s.run cs = .ok s') : '[' ∉ cs := by
  induction cs generalizing s with
  | nil => simp
  | cons c cs ih =>
    rw [run] at h
    cases hstep : s.step c with
    | error e => simp [hstep] at h
    | ok next =>
      have hnext : next.opened = true := ((brackets_of_step hstep).1).mpr (.inl hs)
      have hc : c ≠ '[' := by
        rintro rfl
        simp [step, hs] at hstep
      rw [List.mem_cons, not_or]
      exact ⟨Ne.symm hc, ih hnext (by simpa [hstep] using h)⟩

theorem IsWellFormed.not_mem_open {a : Authority} (h : a.IsWellFormed) {cs : List Char}
    (htext : a.text.toList = '[' :: cs) : '[' ∉ cs := by
  obtain ⟨-, front, hsplit⟩ := parse_eq_ok h
  obtain ⟨-, -, s, hrun, -⟩ := split_eq_ok hsplit
  rw [← eq_of_split hsplit, htext, Scan.run] at hrun
  exact Scan.not_mem_open_of_run rfl hrun

theorem IsWellFormed.isEnd_eq_false {a : Authority} (h : a.IsWellFormed) {c : Char}
    (hc : c ∈ a.text.toList) : isEnd c = false := by
  obtain ⟨-, front, hsplit⟩ := parse_eq_ok h
  obtain ⟨hfront, -, -⟩ := split_eq_ok hsplit
  rw [eq_of_split hsplit, hfront] at hc
  simpa using List.mem_takeWhile_imp hc

theorem not_mem_afterUser (cs : List Char) : '@' ∉ afterUser cs := by
  intro hmem
  rw [afterUser, List.mem_reverse] at hmem
  simpa using List.mem_takeWhile_imp hmem

/-- The port that stands behind the last colon of an authority, if a port stands there. -/
def port? (a : Authority) : Option UInt16 :=
  let cs := a.text.toList
  if ':' ∈ cs then
    Arguments.readPort? (String.ofList (cs.reverse.takeWhile (· ≠ ':')).reverse)
  else none

end Authority

namespace BackendUrl

theorem toList_address (host : String) (port : UInt16) :
    (address host port).toList = host.toList ++ ':' :: Nat.toDigits 10 port.toNat := by
  simp [address]

theorem port?_address (host : String) (port : UInt16) :
    Authority.port? ⟨address host port⟩ = some port := by
  have hdigits : ':' ∉ (Nat.toDigits 10 port.toNat).reverse := by
    rw [List.mem_reverse]
    exact not_mem_toDigits (by decide) port.toNat
  have hlast : (address host port).toList.reverse.takeWhile (· ≠ ':') =
      (Nat.toDigits 10 port.toNat).reverse := by
    rw [toList_address, List.reverse_append, List.reverse_cons, List.append_assoc]
    exact takeWhile_ne_append hdigits (by simp)
  have hcolon : ':' ∈ (address host port).toList := by simp [toList_address]
  simp only [Authority.port?, if_pos hcolon, hlast, List.reverse_reverse]
  rw [← Nat.toString_eq_ofList_toDigits, Arguments.readPort?_toString]

section

variable [AuthorityGrammar]

/-- What is wrong first with a host and a port: the host is empty, the port is zero, they make no
authority, or they make one with another host. -/
inductive FirstFault (host : String) (port : UInt16) : BackendFault → Prop where
  | emptyHost : host = "" → FirstFault host port .emptyHost
  | zeroPort : host ≠ "" → port = 0 → FirstFault host port .zeroPort
  | invalidAddress {cause : UriError} : host ≠ "" → port ≠ 0 →
      AuthorityGrammar.parse (address host port) = .error cause →
      FirstFault host port (.invalidAddress (address host port) cause)
  | invalidHost {a : Authority} : host ≠ "" → port ≠ 0 →
      AuthorityGrammar.parse (address host port) = .ok a → AuthorityGrammar.host a ≠ host →
      FirstFault host port (.invalidHost host)

theorem http_eq_error_iff {host : String} {port : UInt16} {fault : BackendFault} :
    http host port = .error fault ↔ FirstFault host port fault := by
  constructor
  · intro h
    unfold http at h
    split at h
    · rename_i hempty
      obtain rfl := Except.error.inj h
      exact .emptyHost (by simpa using hempty)
    · rename_i hhost
      have hne : host ≠ "" := by simpa using hhost
      split_ifs at h with hport
      · obtain rfl := Except.error.inj h
        exact .zeroPort hne hport
      · cases hparse : AuthorityGrammar.parse (address host port) with
        | error cause =>
          simp only [hparse] at h
          obtain rfl := Except.error.inj h
          exact .invalidAddress hne hport hparse
        | ok a =>
          simp only [hparse] at h
          split_ifs at h with hsame
          obtain rfl := Except.error.inj h
          exact .invalidHost hne hport hparse hsame
  · rintro (hempty | ⟨hhost, hport⟩ | ⟨hhost, hport, hparse⟩ | ⟨hhost, hport, hparse, hother⟩)
    · simp [http, hempty]
    · simp [http, hhost, hport]
    · simp [http, hhost, hport, hparse]
    · simp [http, hhost, hport, hparse, hother]

theorem of_http_eq_ok {host : String} {port : UInt16} {url : BackendUrl}
    (h : http host port = .ok url) :
    host ≠ "" ∧ url.port.val = port ∧ AuthorityGrammar.parse (address host port) = .ok url.authority ∧
      AuthorityGrammar.host url.authority = host := by
  unfold http at h
  split at h
  · cases h
  · rename_i hhost
    split_ifs at h
    cases hparse : AuthorityGrammar.parse (address host port) with
    | error cause => simp [hparse] at h
    | ok a =>
      simp only [hparse] at h
      split_ifs at h with hsame
      obtain rfl := Except.ok.inj h
      exact ⟨by simpa using hhost, rfl, rfl, hsame⟩

theorem port_of_http {host : String} {port : UInt16} {url : BackendUrl}
    (h : http host port = .ok url) : url.port.val = port :=
  (of_http_eq_ok h).2.1

/-- An address is never refused for a name of a port. -/
theorem http_ne_unknownPort (host : String) (port : UInt16) (service name : String) :
    http host port ≠ .error (.unknownPort service name) := by
  intro h
  cases http_eq_error_iff.mp h

end

theorem wellFormed_of_http {host : String} {port : UInt16} {url : BackendUrl}
    (h : http host port = .ok url) :
    url.authority.text = address host port ∧ url.authority.IsWellFormed := by
  obtain ⟨-, -, hparse, -⟩ := of_http_eq_ok h
  exact ⟨(Authority.parse_eq_ok hparse).1, Authority.isWellFormed_of_parse hparse⟩

theorem mem_authority_of_http {host : String} {port : UInt16} {url : BackendUrl}
    (h : http host port = .ok url) {c : Char} (hc : c ∈ host.toList) :
    c ∈ url.authority.text.toList := by
  rw [(wellFormed_of_http h).1, toList_address]
  exact List.mem_append_left _ hc

/-- A host of which an address was made has no user information before it and no port behind it. -/
theorem isBare_of_http {host : String} {port : UInt16} {url : BackendUrl}
    (h : http host port = .ok url) : Host.IsBare host := by
  obtain ⟨htext, hwell⟩ := wellFormed_of_http h
  have hback : url.authority.host = host := (of_http_eq_ok h).2.2.2
  -- The host that is read back has no sign of user information, so there is none in the address.
  have hsign : '@' ∉ host.toList := by
    rw [← hback, Authority.host, String.toList_ofList]
    exact fun hmem => Authority.not_mem_afterUser _ (Authority.mem_of_mem_hostChars hmem)
  have huser : '@' ∉ url.authority.text.toList := by
    have hdigits : '@' ∉ Nat.toDigits 10 port.toNat := not_mem_toDigits (by decide) port.toNat
    rw [htext, toList_address]
    simp [hsign, hdigits]
  rw [← hback, Authority.host, Authority.afterUser_eq_self huser]
  exact Authority.isBare_hostChars huser hwell.mem_close_of_mem_open

/-- A colon in a host is one of an address in brackets, which is the whole host. -/
theorem bracketed_of_http {host : String} {port : UInt16} {url : BackendUrl}
    (h : http host port = .ok url) (hcolon : ':' ∈ host.toList) :
    ∃ address, host.toList = '[' :: (address ++ [']']) ∧ '[' ∉ address ∧ ']' ∉ address := by
  obtain ⟨htext, hwell⟩ := wellFormed_of_http h
  obtain hnone | ⟨literal, heq, hclose⟩ := (isBare_of_http h).port
  · exact absurd hcolon hnone
  · have hstart : url.authority.text.toList =
        '[' :: (literal ++ [']'] ++ ':' :: Nat.toDigits 10 port.toNat) := by
      rw [htext, toList_address, heq, List.cons_append]
    have hopen := hwell.not_mem_open hstart
    exact ⟨literal, heq, fun hmem => hopen (by simp [hmem]), hclose⟩

theorem render_injective {url url' : BackendUrl} (h : url.render = url'.render) :
    url.authority = url'.authority := by
  have htext : url.authority.text = url'.authority.text := by
    have hlist := congrArg String.toList h
    simp only [render, String.toList_append] at hlist
    exact String.toList_injective (List.append_cancel_left hlist)
  cases hurl : url.authority
  cases hurl' : url'.authority
  simpa [hurl, hurl'] using htext

/-- Both parts of an address are read back from it. -/
theorem host_and_port_of_http {host : String} {port : UInt16} {url : BackendUrl}
    (h : http host port = .ok url) :
    url.authority.host = host ∧ url.authority.port? = some port := by
  obtain ⟨-, -, -, hhost⟩ := of_http_eq_ok h
  refine ⟨hhost, ?_⟩
  rw [← port?_address host port, ← (wellFormed_of_http h).1]

theorem eq_of_render_eq {host host' : String} {port port' : UInt16} {url url' : BackendUrl}
    (h : http host port = .ok url) (h' : http host' port' = .ok url')
    (hsame : url'.render = url.render) : host' = host ∧ port' = port := by
  obtain ⟨hhost, hport⟩ := host_and_port_of_http h
  obtain ⟨hhost', hport'⟩ := host_and_port_of_http h'
  rw [render_injective hsame] at hhost' hport'
  exact ⟨hhost'.symm.trans hhost, Option.some.inj (hport'.symm.trans hport)⟩

/-- An address has no end of an authority in its host, and no sign of user information. -/
theorem not_mem_of_http {host : String} {port : UInt16} {url : BackendUrl}
    (h : http host port = .ok url) : ∀ c ∈ ['@', '/', '?', '#'], c ∉ host.toList := by
  intro c hc hmem
  have hinside := (wellFormed_of_http h).2.isEnd_eq_false (mem_authority_of_http h hmem)
  simp only [List.mem_cons, List.not_mem_nil, or_false] at hc
  obtain rfl | rfl | rfl | rfl := hc
  · exact (isBare_of_http h).user hmem
  all_goals exact absurd hinside (by decide)

/-- An address that is made of a host and a port is their text, from which both are read back; so no
other host and port have the same address, letter by letter. Its host is all there is before the port:
it has no sign of user information, of a path, a query or a fragment, and a colon only between brackets
around the whole of it. Otherwise there is no address, and the fault is the first thing that is
wrong. -/
theorem http_unambiguous (host : String) (port : UInt16) :
    (∀ url, http host port = .ok url →
      (url.authority.text = address host port ∧ url.port.val = port ∧
        url.authority.host = host ∧ url.authority.port? = some port) ∧
      (∀ host' port' url', http host' port' = .ok url' → url'.render = url.render →
        host' = host ∧ port' = port) ∧
      host ≠ "" ∧ (∀ c ∈ ['@', '/', '?', '#'], c ∉ host.toList) ∧
      (':' ∈ host.toList →
        ∃ literal, host.toList = '[' :: (literal ++ [']']) ∧ '[' ∉ literal ∧ ']' ∉ literal)) ∧
    ∀ fault, http host port = .error fault ↔ FirstFault host port fault := by
  refine ⟨fun url h => ?_, fun fault => http_eq_error_iff⟩
  obtain ⟨hne, hport, -, -⟩ := of_http_eq_ok h
  obtain ⟨htext, -⟩ := wellFormed_of_http h
  have hunique : ∀ host' port' url', http host' port' = .ok url' → url'.render = url.render →
      host' = host ∧ port' = port := fun _ _ _ h' hsame => eq_of_render_eq h h' hsame
  exact ⟨⟨htext, hport, host_and_port_of_http h⟩, hunique, hne, not_mem_of_http h,
    bracketed_of_http h⟩

theorem http_unambiguous_literal :
    ∃ url, http "[2001:db8::1]" 8443 = .ok url ∧ url.render = "http://[2001:db8::1]:8443" ∧
      url.authority.port? = some 8443 ∧
      (∃ literal, "[2001:db8::1]".toList = '[' :: (literal ++ [']']) ∧
        '[' ∉ literal ∧ ']' ∉ literal) ∧
      http "user@leaf" 8443 = .error (.invalidHost "user@leaf") := by
  obtain ⟨url, hok⟩ : ∃ url, http "[2001:db8::1]" 8443 = .ok url :=
    ⟨⟨⟨"[2001:db8::1]:8443"⟩, 8443, by decide⟩, by decide +kernel⟩
  obtain ⟨⟨htext, -, -, hport⟩, -, -, -, hliteral⟩ :=
    (http_unambiguous "[2001:db8::1]" 8443).1 url hok
  have hother : AuthorityGrammar.host ⟨address "user@leaf" 8443⟩ ≠ "user@leaf" := by decide +kernel
  refine ⟨url, hok, ?_, hport, hliteral (by decide +kernel), ?_⟩
  · rw [render, htext]
    decide +kernel
  · exact ((http_unambiguous "user@leaf" 8443).2 _).mpr
      (.invalidHost (by decide) (by decide) (by decide +kernel) hother)

end BackendUrl

end IngressProxy

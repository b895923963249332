import IngressProxy.Http.Http2
import IngressProxy.Http.Inbound
import IngressProxy.Proofs.Text.Readable
import Mathlib.Data.List.TakeWhile
import Mathlib.Tactic.SplitIfs

namespace IngressProxy

theorem Except.bind_eq_ok {ε α β : Type} {x : Except ε α} {f : α → Except ε β} {b : β}
    (h : x >>= f = .ok b) : ∃ a, x = .ok a ∧ f a = .ok b := by
  cases x with
  | error e => cases h
  | ok a => exact ⟨a, rfl, h⟩

theorem Except.map_eq_ok {ε α β : Type} {x : Except ε α} {f : α → β} {b : β}
    (h : x.map f = .ok b) : ∃ a, x = .ok a ∧ f a = b := by
  cases x with
  | error e => cases h
  | ok a => exact ⟨a, rfl, Except.ok.inj h⟩

namespace Authority

/-- Whether an authority can be read from its text. -/
def IsWellFormed (a : Authority) : Prop := parse a.text = .ok a

theorem toNat_of_isUriChar {c : Char} (h : isUriChar c = true) : 32 < c.toNat ∧ c.toNat < 127 := by
  unfold isUriChar at h
  delta Char.isAlphanum Char.isAlpha Char.isUpper Char.isLower Char.isDigit at h
  simp only [Bool.or_eq_true, Bool.and_eq_true, decide_eq_true_eq, ge_iff_le,
    UInt32.le_iff_toNat_le] at h
  obtain (hcase | hdigit) | hmark := h
  · change (65 ≤ c.toNat ∧ c.toNat ≤ 90) ∨ (97 ≤ c.toNat ∧ c.toNat ≤ 122) at hcase
    omega
  · change 48 ≤ c.toNat ∧ c.toNat ≤ 57 at hdigit
    omega
  · have hmarks : "!#$&'()*+,-./:;=?@[]_~".toList.all
        (fun d => decide (32 < d.toNat ∧ d.toNat < 127)) = true := by decide +kernel
    exact of_decide_eq_true (List.all_eq_true.mp hmarks c (List.contains_iff_mem.mp hmark))

theorem Scan.toNat_of_step {s s' : Scan} {c : Char} (h : s.step c = .ok s') :
    32 < c.toNat ∧ c.toNat < 127 := by
  by_cases hchar : isUriChar c = true
  · exact toNat_of_isUriChar hchar
  · -- The marks are all of them among the characters of a URI, but for the percent sign.
    have hmark : ∀ d ∈ [':', '[', ']', '@'], c ≠ d := by
      rintro d hd rfl
      have hmarks : [':', '[', ']', '@'].all isUriChar = true := by decide +kernel
      exact hchar (List.all_eq_true.mp hmarks c hd)
    by_cases hpercent : c = '%'
    · subst hpercent
      decide
    · simp [step, hmark ':', hmark '[', hmark ']', hmark '@', hpercent, hchar] at h

theorem Scan.toNat_of_run {s s' : Scan} {cs : List Char} (h : s.run cs = .ok s') :
    ∀ c ∈ cs, 32 < c.toNat ∧ c.toNat < 127 := by
  induction cs generalizing s with
  | nil => simp
  | cons c cs ih =>
    rw [run] at h
    cases hstep : s.step c with
    | error e => simp [hstep] at h
    | ok next =>
      rw [hstep] at h
      intro d hd
      obtain rfl | hd := List.mem_cons.mp hd
      · exact toNat_of_step hstep
      · exact ih h d hd

/-- What is split off is the front up to the first character that ends it. -/
theorem split_eq_ok {cs front rest : List Char} (h : split cs = .ok (front, rest)) :
    front = cs.takeWhile (!isEnd ·) ∧ rest = cs.dropWhile (!isEnd ·) ∧
      ∃ s, Scan.run {} front = .ok s ∧ s.complete = true := by
  unfold split at h
  cases hrun : Scan.run {} (cs.takeWhile (!isEnd ·)) with
  | error e => simp [hrun] at h
  | ok s =>
    simp only [hrun] at h
    split_ifs at h with hcomplete
    obtain ⟨rfl, rfl⟩ : _ = front ∧ _ = rest := by simpa using h
    exact ⟨rfl, rfl, s, hrun, hcomplete⟩

theorem eq_of_split {cs front : List Char} (h : split cs = .ok (front, [])) : cs = front := by
  obtain ⟨hfront, hrest, -⟩ := split_eq_ok h
  have hwhole := List.takeWhile_append_dropWhile (p := (!isEnd ·)) (l := cs)
  rw [← hfront, ← hrest, List.append_nil] at hwhole
  exact hwhole.symm

theorem isWellFormed_of_split {cs front rest : List Char} (h : split cs = .ok (front, rest))
    (hne : front ≠ []) : IsWellFormed ⟨String.ofList front⟩ := by
  obtain ⟨hfront, -, s, hrun, hcomplete⟩ := split_eq_ok h
  have hparts : ∀ c ∈ front, (!isEnd c) = true := by
    rw [hfront]
    exact fun c => List.mem_takeWhile_imp
  have htake : front.takeWhile (!isEnd ·) = front := List.takeWhile_eq_self_iff.mpr hparts
  have hdrop : front.dropWhile (!isEnd ·) = [] := List.dropWhile_eq_nil_iff.mpr hparts
  have hsplit : split front = .ok (front, []) := by
    simp [split, htake, hdrop, hrun, hcomplete]
  simp [IsWellFormed, parse, hsplit, hne]

/-- What is read as an authority is the whole text. -/
theorem parse_eq_ok {s : String} {a : Authority} (h : parse s = .ok a) :
    a.text = s ∧ ∃ front, split s.toList = .ok (front, []) := by
  unfold parse at h
  split_ifs at h
  cases hsplit : split s.toList with
  | error e => simp [hsplit] at h
  | ok parts =>
    obtain ⟨front, rest⟩ := parts
    simp only [hsplit] at h
    split_ifs at h with hrest
    obtain rfl : _ = a := Except.ok.inj h
    exact ⟨rfl, front, by rw [← List.isEmpty_iff.mp hrest]⟩

theorem isWellFormed_of_parse {s : String} {a : Authority} (h : parse s = .ok a) :
    a.IsWellFormed := by
  rw [IsWellFormed, (parse_eq_ok h).1, h]

theorem IsWellFormed.isReadable {a : Authority} (h : a.IsWellFormed) : IsReadable a.text := by
  obtain ⟨-, front, hsplit⟩ := parse_eq_ok h
  obtain ⟨-, -, s, hrun, -⟩ := split_eq_ok hsplit
  intro c hc
  rw [eq_of_split hsplit] at hc
  obtain ⟨hlow, hhigh⟩ := Scan.toNat_of_run hrun c hc
  exact .inr ⟨Nat.le_of_lt hlow, hhigh⟩

end Authority

namespace Uri

/-- Whether a URI has one of the forms in which URIs are read. -/
structure IsWellFormed (u : Uri) : Prop where
  authority : ∀ a, u.authority = some a → a.IsWellFormed
  alone : u.scheme = none → u.authority.isSome = true → u.target = Target.blank

theorem isWellFormed_of_authority {a : Authority} (h : a.IsWellFormed) :
    IsWellFormed { authority := some a } where
  authority _ ha := Option.some.inj ha ▸ h
  alone _ _ := rfl

theorem isWellFormed_of_target (t : Target) : IsWellFormed { target := t } where
  authority _ ha := nomatch ha
  alone _ ha := nomatch ha

theorem isWellFormed_of_parseFull {cs : List Char} (hne : cs ≠ []) {u : Uri}
    (h : parseFull cs = .ok u) : u.IsWellFormed := by
  unfold parseFull at h
  obtain ⟨scheme, -, h⟩ := Except.bind_eq_ok h
  cases scheme with
  | none =>
    obtain ⟨⟨front, rest⟩, hsplit, h⟩ := Except.bind_eq_ok h
    simp only at h
    split_ifs at h with hrest
    obtain rfl : _ = u := Except.ok.inj h
    rw [List.isEmpty_iff.mp hrest] at hsplit
    have hfront : front ≠ [] := Authority.eq_of_split hsplit ▸ hne
    exact isWellFormed_of_authority (Authority.isWellFormed_of_split hsplit hfront)
  | some named =>
    obtain ⟨scheme, cs⟩ := named
    simp only at h
    split_ifs at h
    · cases h
    · obtain ⟨⟨front, rest⟩, hsplit, h⟩ := Except.bind_eq_ok h
      simp only at h
      split_ifs at h with hfront
      · cases h
      · obtain ⟨target, -, h⟩ := Except.bind_eq_ok h
        obtain rfl : _ = u := Except.ok.inj h
        refine ⟨fun a ha => ?_, nofun⟩
        obtain rfl : _ = a := Option.some.inj ha
        exact Authority.isWellFormed_of_split hsplit (by simpa using hfront)

theorem isWellFormed_of_parse {s : String} {u : Uri} (h : parse s = .ok u) : u.IsWellFormed := by
  unfold parse at h
  split_ifs at h
  split at h
  · cases h
  · obtain rfl : _ = u := Except.ok.inj h
    exact isWellFormed_of_target _
  · obtain ⟨t, -, rfl⟩ := Except.map_eq_ok h
    exact isWellFormed_of_target t
  · obtain ⟨a, ha, rfl⟩ := Except.map_eq_ok h
    exact isWellFormed_of_authority (Authority.isWellFormed_of_parse ha)
  · rename_i hne _ _ _
    exact isWellFormed_of_parseFull hne h

end Uri

namespace Http

theorem Inbound.isWellFormed_of_ofHead {head : RequestHead} {inbound : Inbound}
    (h : Inbound.ofHead head = .ok inbound) : inbound.request.uri.IsWellFormed := by
  unfold Inbound.ofHead at h
  split_ifs at h
  cases huri : Uri.parse head.target with
  | error e => simp [huri] at h
  | ok uri =>
    simp only [huri] at h
    split at h
    · cases h
    · split_ifs at h
      obtain rfl : _ = inbound := Except.ok.inj h
      exact Uri.isWellFormed_of_parse huri

/-- A request that is read on a connection has a well-formed URI. -/
theorem Inbound.isWellFormed_of_read {bs rest more : Bytes} {inbound : Inbound}
    (h : Inbound.read bs = .done (.ok (inbound, more)) rest) :
    inbound.request.uri.IsWellFormed := by
  unfold Inbound.read at h
  split at h
  · cases h
  · cases h
  · cases h
  · rename_i head _ _
    cases hhead : Inbound.ofHead head with
    | error status => simp [hhead] at h
    | ok inbound' =>
      simp only [hhead, Reading.done.injEq, Except.ok.injEq, Prod.mk.injEq] at h
      have hwell := Inbound.isWellFormed_of_ofHead hhead
      obtain ⟨⟨rfl, -⟩, -⟩ := h
      exact hwell

/-- So has one that crosses an HTTP/2 connection. -/
theorem Http2.isWellFormed_of_received? {r r' : Request} (hr : r.uri.IsWellFormed)
    (h : Http2.received? r = some r') : r'.uri.IsWellFormed := by
  unfold Http2.received? at h
  obtain ⟨scheme, -, h⟩ := Option.bind_eq_some_iff.mp h
  obtain ⟨authority, hauthority, h⟩ := Option.bind_eq_some_iff.mp h
  have hwell : Uri.IsWellFormed { scheme, authority, target := r.uri.target } := by
    refine ⟨fun a ha => ?_, nofun⟩
    obtain rfl : authority = a := Option.some.inj ha
    exact hr.authority authority hauthority
  simp only at h
  split_ifs at h <;>
  · obtain rfl : _ = r' := Option.some.inj h
    exact hwell

end Http

end IngressProxy

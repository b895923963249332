import IngressProxy.Proofs.Uri.WellFormed

namespace IngressProxy

theorem takeWhile_ne_append {c : Char} {cs rest : List Char} (h : c ∉ cs)
    (hrest : ∀ d ∈ rest.head?, d = c) : (cs ++ rest).takeWhile (· ≠ c) = cs := by
  have hcs : ∀ d ∈ cs, decide (d ≠ c) = true := by
    intro d hd
    have hne : d ≠ c := fun heq => h (heq ▸ hd)
    simpa using hne
  have hstop : rest.takeWhile (· ≠ c) = [] := by
    cases rest with
    | nil => rfl
    | cons d rest => simp [hrest d rfl]
  rw [List.takeWhile_append_of_pos hcs, hstop, List.append_nil]

/-- Whether a text is a host with nothing around it: no user information, and no port behind a name or
behind the bracket that ends an address. -/
structure Host.IsBare (host : String) : Prop where
  user : '@' ∉ host.toList
  port : ':' ∉ host.toList ∨ ∃ address, host.toList = '[' :: (address ++ [']']) ∧ ']' ∉ address

namespace Authority

/-- A bracket that is taken in stays known. -/
theorem Scan.brackets_of_step {s s' : Scan} {c : Char} (h : s.step c = .ok s') :
    (s'.opened = true ↔ s.opened = true ∨ c = '[') ∧
      (s'.closed = true ↔ s.closed = true ∨ c = ']') := by
  unfold step at h
  dsimp only at h
  split_ifs at h <;>
  · obtain rfl := Except.ok.inj h
    simp_all

theorem Scan.brackets_of_run {s s' : Scan} {cs : List Char} (h : s.run cs = .ok s') :
    (s'.opened = true ↔ s.opened = true ∨ '[' ∈ cs) ∧
      (s'.closed = true ↔ s.closed = true ∨ ']' ∈ cs) := by
  induction cs generalizing s with
  | nil =>
    obtain rfl : s = s' := Except.ok.inj h
    simp
  | cons c cs ih =>
    rw [run] at h
    cases hstep : s.step c with
    | error e => simp [hstep] at h
    | ok next =>
      obtain ⟨hopened, hclosed⟩ := brackets_of_step hstep
      obtain ⟨hopened', hclosed'⟩ := ih (by simpa [hstep] using h)
      rw [hopened', hclosed', hopened, hclosed, List.mem_cons, List.mem_cons, or_assoc, or_assoc,
        eq_comm (a := c), eq_comm (a := c)]
      exact ⟨Iff.rfl, Iff.rfl⟩

/-- A bracket that is opened in an authority is closed there. -/
theorem IsWellFormed.mem_close_of_mem_open {a : Authority} (h : a.IsWellFormed)
    (hopen : '[' ∈ a.text.toList) : ']' ∈ a.text.toList := by
  obtain ⟨-, front, hsplit⟩ := parse_eq_ok h
  obtain ⟨-, -, s, hrun, hcomplete⟩ := split_eq_ok hsplit
  rw [eq_of_split hsplit] at hopen ⊢
  obtain ⟨hopened, hclosed⟩ := Scan.brackets_of_run hrun
  have hboth : s.opened = s.closed := by
    simp only [Scan.complete, Bool.and_eq_true, decide_eq_true_eq] at hcomplete
    exact hcomplete.1.1.1
  have hknown := hclosed.mp (hboth ▸ hopened.mpr (.inr hopen))
  simpa using hknown

theorem afterUser_eq_self {cs : List Char} (h : '@' ∉ cs) : afterUser cs = cs := by
  have htake : cs.reverse.takeWhile (· ≠ '@') = cs.reverse :=
    List.takeWhile_eq_self_iff.mpr fun c hc => by
      have hne : c ≠ '@' := fun heq => h (List.mem_reverse.mp (heq ▸ hc))
      simpa using hne
  rw [afterUser, htake, List.reverse_reverse]

theorem hostChars_of_ne {c : Char} (hc : c ≠ '[') (cs : List Char) :
    hostChars (c :: cs) = (c :: cs).takeWhile (· ≠ ':') := by
  simp [hostChars, hc]

theorem hostChars_bracket {cs : List Char} (h : ']' ∈ cs) :
    hostChars ('[' :: cs) = '[' :: (cs.takeWhile (· ≠ ']') ++ [']']) := by
  simp [hostChars, h]

theorem mem_of_mem_hostChars {cs : List Char} {d : Char} (h : d ∈ hostChars cs) : d ∈ cs := by
  unfold hostChars at h
  split at h
  · rename_i cs
    obtain rfl | hd | hd : d = '[' ∨ d ∈ cs.takeWhile (· ≠ ']') ∨
        d ∈ (if ']' ∈ cs then [']'] else []) := by
      simpa [or_assoc] using h
    · exact List.mem_cons_self ..
    · exact List.mem_cons_of_mem _ (List.takeWhile_subset _ hd)
    · obtain ⟨hclose, rfl⟩ : ']' ∈ cs ∧ d = ']' := by simpa using hd
      exact List.mem_cons_of_mem _ hclose
  · exact List.takeWhile_subset _ h

theorem isBare_hostChars {cs : List Char} (huser : '@' ∉ cs) (h : '[' ∈ cs → ']' ∈ cs) :
    Host.IsBare (String.ofList (hostChars cs)) where
  user := by
    rw [String.toList_ofList]
    exact fun hmem => huser (mem_of_mem_hostChars hmem)
  port := by
    rw [String.toList_ofList]
    cases cs with
    | nil => exact .inl (by simp [hostChars])
    | cons c cs =>
      by_cases hbracket : c = '['
      · subst hbracket
        have hclose : ']' ∈ cs := by simpa using h (List.mem_cons_self ..)
        exact .inr ⟨cs.takeWhile (· ≠ ']'), hostChars_bracket hclose,
          fun hmem => by simpa using List.mem_takeWhile_imp hmem⟩
      · refine .inl fun hmem => ?_
        rw [hostChars_of_ne hbracket] at hmem
        simpa using List.mem_takeWhile_imp hmem

/-- An authority without a host starts with the colon of its port. -/
theorem IsWellFormed.head?_of_host_eq_empty {a : Authority} (h : a.IsWellFormed)
    (huser : '@' ∉ a.text.toList) (hhost : a.host = "") : a.text.toList.head? = some ':' := by
  rw [host, afterUser_eq_self huser, String.ofList_eq_empty_iff] at hhost
  cases htext : a.text.toList with
  | nil =>
    rw [String.toList_eq_nil_iff] at htext
    simp [IsWellFormed, parse, htext] at h
  | cons c cs =>
    rw [htext] at hhost
    by_cases hbracket : c = '['
    · simp [hostChars, hbracket] at hhost
    · simpa [hostChars_of_ne hbracket] using hhost

end Authority

end IngressProxy

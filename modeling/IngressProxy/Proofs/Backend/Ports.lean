import IngressProxy.Backend.Ports
import IngressProxy.Proofs.OrderedMap

namespace IngressProxy

/-- A number is a port exactly between 1 and 65535, and the port is that number. -/
theorem Port.ofInt?_cases (n : Int) :
    (∃ p, ofInt? n = some p ∧ (p.val.toNat : Int) = n ∧ 1 ≤ n ∧ n ≤ 65535) ∨
      (ofInt? n = none ∧ ¬ (1 ≤ n ∧ n ≤ 65535)) := by
  unfold ofInt? ofNat?
  by_cases h0 : 0 ≤ n
  · by_cases hlt : n.toNat < 65536
    · have hval : (UInt16.ofNat n.toNat).toNat = n.toNat := UInt16.toNat_ofNat_of_lt hlt
      by_cases hz : UInt16.ofNat n.toNat ≠ 0
      · have hne : n.toNat ≠ 0 := by
          intro h
          exact hz (by rw [h]; rfl)
        refine .inl ⟨⟨_, hz⟩, by simp [h0, hlt, hz], ?_⟩
        simp only [hval]
        omega
      · have hzero : n.toNat = 0 := by
          rw [← hval, not_not.mp hz]
          rfl
        exact .inr ⟨by simp [h0, hlt, hz], by omega⟩
    · exact .inr ⟨by simp [h0, hlt], by omega⟩
  · exact .inr ⟨by simp [h0], by omega⟩

theorem Port.bounds (p : Port) : 1 ≤ p.val.toNat ∧ p.val.toNat ≤ 65535 := by
  have hne : p.val.toNat ≠ 0 := fun h => p.property (UInt16.toNat_inj.mp h)
  have hlt := p.val.toNat_lt
  omega

namespace Service

/-- Whether a port can be connected to and has that name; unnamed ports have the empty name. -/
def isDeclared (name : String) (q : DeclaredPort) : Bool :=
  q.name.getD "" = name ∧ 1 ≤ q.port ∧ q.port ≤ 65535

/-- The last port of a name that can be connected to. -/
def lastPort? (s : Service) (name : String) : Option Int :=
  ((s.ports.filter (isDeclared name)).map DeclaredPort.port).getLast?

/-- The ports of a service hold under each name the last one that can be connected to. -/
theorem get?_ofService (s : Service) (name : String) :
    ((ServicePorts.ofService s).get? name).map (fun q => (q.toNat : Int)) = s.lastPort? name := by
  rw [ServicePorts.ofService, OrderedMap.get?_ofList, lastPort?]
  induction s.ports using List.reverseRecOn with
  | nil => rfl
  | append_singleton l q ih =>
    -- A last port that counts is found first in the reversed list; any other one changes nothing.
    rw [List.filterMap_append, List.reverse_append, List.lookup_append, List.filter_append,
      List.map_append, List.getLast?_append, ← ih]
    obtain ⟨p, hp, hval, hrange⟩ | ⟨hp, hrange⟩ := Port.ofInt?_cases q.port
    · by_cases hn : q.name.getD "" = name
      · simp [hp, hn, hval, hrange, isDeclared]
      · have hne : ¬ name = q.name.getD "" := fun h => hn h.symm
        have hno : isDeclared name q = false := by simp [isDeclared, hn]
        rw [List.filterMap_cons_some (by rw [hp]; rfl), List.filter_cons_of_neg (by simp [hno])]
        simp only [List.filterMap_nil, List.reverse_singleton, OrderedMap.lookup_cons_eq,
          if_neg hne]
        rfl
    · have hno : isDeclared name q = false := by
        simp only [isDeclared, decide_eq_false_iff_not]
        exact fun h => hrange h.2
      rw [List.filterMap_cons_none (by rw [hp]; rfl), List.filter_cons_of_neg (by simp [hno])]
      rfl

end Service

end IngressProxy

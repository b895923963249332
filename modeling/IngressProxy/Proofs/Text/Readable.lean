import IngressProxy.Net.Ip
import Mathlib.Data.List.Basic
import Mathlib.Tactic.IntervalCases

namespace IngressProxy

/-- Whether all characters of a text are printable ASCII or tabs. -/
def IsReadable (s : String) : Prop := ∀ c ∈ s.toList, c = '\t' ∨ (32 ≤ c.toNat ∧ c.toNat < 127)

theorem IsReadable.append {s t : String} (hs : IsReadable s) (ht : IsReadable t) :
    IsReadable (s ++ t) := by
  intro c hc
  rw [String.toList_append] at hc
  exact (List.mem_append.mp hc).elim (hs c) (ht c)

theorem IsReadable.intercalate {s : String} (hs : IsReadable s) {l : List String}
    (hl : ∀ t ∈ l, IsReadable t) : IsReadable (s.intercalate l) := by
  induction l with
  | nil => simp [IsReadable]
  | cons t rest ih =>
    rw [List.forall_mem_cons] at hl
    cases rest with
    | nil => simpa using hl.1
    | cons u rest =>
      rw [String.intercalate_cons_cons]
      exact (hl.1.append hs).append (ih hl.2)

theorem isReadable_ofList_toDigits {b : Nat} (hb : 1 < b) (n : Nat) :
    IsReadable (String.ofList (Nat.toDigits b n)) := by
  have hdigit (n : Nat) : 32 ≤ (Nat.digitChar n).toNat ∧ (Nat.digitChar n).toNat < 127 := by
    by_cases hlt : n < 16
    · interval_cases n <;> decide
    · rw [Nat.digitChar_eq_star.mpr (by omega)]
      decide
  intro c hc
  rw [String.toList_ofList] at hc
  induction n using Nat.strongRecOn with
  | ind n ih =>
    rw [Nat.toDigits_eq_if hb] at hc
    split at hc
    · rw [List.mem_singleton.mp hc]
      exact .inr (hdigit n)
    · rename_i hle
      have hdiv : n / b < n := Nat.div_lt_self (by omega) hb
      obtain hc | hc := List.mem_append.mp hc
      · exact ih (n / b) hdiv hc
      · rw [List.mem_singleton.mp hc]
        exact .inr (hdigit (n % b))

namespace IpAddress

theorem isReadable_renderV4 (a b c d : UInt8) : IsReadable (renderV4 a b c d) := by
  refine IsReadable.intercalate (by simp [IsReadable]) fun t ht => ?_
  obtain ⟨n, -, rfl⟩ := List.mem_map.mp ht
  exact isReadable_ofList_toDigits (by decide) n.toNat

theorem isReadable_renderGroups (groups : List UInt16) : IsReadable (renderGroups groups) := by
  refine IsReadable.intercalate (by simp [IsReadable]) fun t ht => ?_
  obtain ⟨g, -, rfl⟩ := List.mem_map.mp ht
  exact isReadable_ofList_toDigits (by decide) g.toNat

theorem isReadable_render (a : IpAddress) : IsReadable a.render := by
  unfold render
  split
  · exact isReadable_renderV4 _ _ _ _
  · split
    · exact IsReadable.append (by simp [IsReadable]) (isReadable_renderV4 _ _ _ _)
    · dsimp only
      split
      · have hgap : IsReadable "::" := by simp [IsReadable]
        exact ((isReadable_renderGroups _).append hgap).append (isReadable_renderGroups _)
      · exact isReadable_renderGroups _

end IpAddress

end IngressProxy

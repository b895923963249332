import IngressProxy.Proofs.Text.Utf8
import IngressProxy.Resource.Reference
import Mathlib.Data.Prod.Lex
import Mathlib.Data.String.Basic

namespace IngressProxy.ObjectRef

/-- Whether a reference comes before another one, in the order of bytes. -/
def Before (a b : ObjectRef) : Prop :=
  Utf8.encode a.ns < Utf8.encode b.ns ∨ a.ns = b.ns ∧ Utf8.encode a.name < Utf8.encode b.name

/-- Namespace and name in lexicographic order. -/
def key (r : ObjectRef) : String ×ₗ String := toLex (r.ns, r.name)

theorem key_injective : Function.Injective key := by
  rintro ⟨ns, name⟩ ⟨ns', name'⟩ h
  obtain ⟨rfl, rfl⟩ : ns = ns' ∧ name = name' := by simpa [key] using h
  rfl

theorem before_iff_key_lt (a b : ObjectRef) : a.Before b ↔ a.key < b.key := by
  rw [Before, Utf8.encode_lt_encode_iff, Utf8.encode_lt_encode_iff, key, key,
    Prod.Lex.toLex_lt_toLex]

theorem le_iff_key_le (a b : ObjectRef) : a.le b = true ↔ a.key ≤ b.key := by
  have htext (s t : String) : textLe s t = true ↔ s ≤ t := by
    rw [textLe, Bool.not_eq_true', decide_eq_false_iff_not, not_lt]
  rw [key, key, Prod.Lex.toLex_le_toLex, le]
  by_cases hns : a.ns = b.ns
  · simp [hns, htext]
  · rw [if_neg hns, htext, le_iff_lt_or_eq]
    simp [hns]

theorem before_irrefl (a : ObjectRef) : ¬ a.Before a := by
  rw [before_iff_key_lt]
  exact lt_irrefl a.key

theorem before_asymm {a b : ObjectRef} (hab : a.Before b) : ¬ b.Before a := by
  rw [before_iff_key_lt] at *
  exact hab.asymm

theorem before_of_le_of_ne {a b : ObjectRef} (hab : a.le b) (hne : a ≠ b) : a.Before b := by
  rw [le_iff_key_le] at hab
  rw [before_iff_key_lt]
  exact hab.lt_of_ne (key_injective.ne hne)

theorem le_trans {a b c : ObjectRef} (hab : a.le b) (hbc : b.le c) : a.le c := by
  rw [le_iff_key_le] at *
  exact hab.trans hbc

theorem le_total (a b : ObjectRef) : a.le b || b.le a := by
  rw [Bool.or_eq_true, le_iff_key_le, le_iff_key_le]
  exact Std.le_total

end IngressProxy.ObjectRef

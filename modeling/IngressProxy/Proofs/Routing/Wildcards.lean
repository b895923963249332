import IngressProxy.Routing.Host
import Mathlib.Order.Lattice

namespace IngressProxy.Host

/-- The labels of a text are what stands between its dots; without a dot it is one label. -/
def labels (text : String) : List (List Char) := text.toList.splitOn '.'

/-- How many labels of a host stand for any label: the asterisks at its front, but not its last
label. -/
def wildcards (pattern : List (List Char)) : Nat :=
  min (pattern.takeWhile (· = ['*'])).length (pattern.length - 1)

theorem wildcards_asterisk {pattern : List (List Char)} (h : pattern ≠ []) :
    wildcards (['*'] :: pattern) = wildcards pattern + 1 := by
  have hlength : 0 < pattern.length := List.length_pos_iff.mpr h
  simp only [wildcards, List.takeWhile_cons, decide_true, if_true, List.length_cons]
  omega

/-- Whether the labels of a name fit those of a host: as many, and the same ones behind the
wildcards. -/
structure Fits (found pattern : List (List Char)) : Prop where
  length_eq : found.length = pattern.length
  agree : ∀ i, wildcards pattern ≤ i → found[i]? = pattern[i]?

theorem fits_iff_eq {found pattern : List (List Char)} (h : wildcards pattern = 0) :
    Fits found pattern ↔ found = pattern := by
  constructor
  · intro hfits
    exact List.ext_getElem? fun i => hfits.agree i (h ▸ Nat.zero_le i)
  · rintro rfl
    exact ⟨rfl, fun _ _ => rfl⟩

/-- A wildcard takes one label. -/
theorem fits_asterisk {label : List Char} {found pattern : List (List Char)} (h : pattern ≠ []) :
    Fits (label :: found) (['*'] :: pattern) ↔ Fits found pattern := by
  constructor
  · rintro ⟨hlength, hagree⟩
    refine ⟨by simpa using hlength, fun i hi => ?_⟩
    have hnext := hagree (i + 1) (by rw [wildcards_asterisk h]; omega)
    rwa [List.getElem?_cons_succ, List.getElem?_cons_succ] at hnext
  · rintro ⟨hlength, hagree⟩
    refine ⟨by simpa using hlength, fun i hi => ?_⟩
    rw [wildcards_asterisk h] at hi
    obtain ⟨i, rfl⟩ : ∃ j, i = j + 1 := ⟨i - 1, by omega⟩
    rw [List.getElem?_cons_succ, List.getElem?_cons_succ]
    exact hagree i (by omega)

/-- What fits is any labels for the wildcards, and then the rest of the host as it stands. -/
theorem fits_iff_append {found pattern : List (List Char)} :
    Fits found pattern ↔ ∃ front, front.length = wildcards pattern ∧
      found = front ++ pattern.drop (wildcards pattern) := by
  have hle : wildcards pattern ≤ pattern.length := (min_le_right _ _).trans (Nat.sub_le _ _)
  constructor
  · rintro ⟨hlength, hagree⟩
    have hrest : found.drop (wildcards pattern) = pattern.drop (wildcards pattern) := by
      refine List.ext_getElem? fun i => ?_
      rw [List.getElem?_drop, List.getElem?_drop]
      exact hagree _ (Nat.le_add_right _ _)
    refine ⟨found.take (wildcards pattern), ?_, ?_⟩
    · rw [List.length_take, hlength, min_eq_left hle]
    · rw [← hrest, List.take_append_drop]
  · rintro ⟨front, hfront, rfl⟩
    refine ⟨?_, fun i hi => ?_⟩
    · rw [List.length_append, List.length_drop, hfront, Nat.add_sub_cancel' hle]
    · rw [List.getElem?_append_right (by omega), List.getElem?_drop, hfront, Nat.add_sub_cancel' hi]

/-- Before the first dot of a text stand all characters up to it. -/
theorem eq_append_of_afterDot? {cs tail : List Char} (h : afterDot? cs = some tail) :
    cs = cs.takeWhile (· ≠ '.') ++ '.' :: tail := by
  induction cs with
  | nil => cases h
  | cons c cs ih =>
    by_cases hdot : c = '.'
    · simpa [afterDot?, hdot] using h
    · rw [afterDot?, if_neg hdot] at h
      rw [List.takeWhile_cons_of_pos (by simpa using hdot), List.cons_append, ← ih h]

/-- The labels of a text are what stands before its first dot and the labels of what follows it. -/
theorem splitOn_dot (cs : List Char) :
    cs.splitOn '.' =
      cs.takeWhile (· ≠ '.') :: ((afterDot? cs).map fun tail => tail.splitOn '.').getD [] := by
  induction cs with
  | nil => rfl
  | cons c cs ih =>
    rw [List.splitOn_cons_eq_if_modifyHead]
    by_cases hdot : c = '.'
    · simp [hdot, afterDot?]
    · rw [if_neg (by simpa using hdot), ih]
      simp [hdot, afterDot?]

theorem splitOn_injective : Function.Injective fun cs : List Char => cs.splitOn '.' :=
  Function.LeftInverse.injective fun _ => List.intercalate_splitOn '.'

theorem splitOn_wildcard (rest : List Char) :
    ('*' :: '.' :: rest).splitOn '.' = ['*'] :: rest.splitOn '.' :=
  splitOn_dot _

/-- A host that does not start with an asterisk and a dot has no wildcards. -/
theorem wildcards_eq_zero {certHost : List Char} (h : ∀ rest, certHost ≠ '*' :: '.' :: rest) :
    wildcards (certHost.splitOn '.') = 0 := by
  rw [splitOn_dot]
  cases hdot : afterDot? certHost with
  | none => simp [wildcards]
  | some tail =>
    have hfirst : certHost.takeWhile (· ≠ '.') ≠ ['*'] := by
      intro hasterisk
      have heq := eq_append_of_afterDot? hdot
      rw [hasterisk] at heq
      exact h tail heq
    rw [wildcards, List.takeWhile_cons_of_neg (by simpa using hfirst)]
    exact Nat.zero_min _

/-- The induction is on the wildcards that are taken off both texts. -/
theorem coversChars_iff_fits (name certHost : List Char) :
    coversChars name certHost = true ↔ Fits (name.splitOn '.') (certHost.splitOn '.') := by
  induction name, certHost using coversChars.induct with
  | case1 name rest tail htail ih =>
    have hnext : coversChars name ('*' :: '.' :: rest) = coversChars tail rest := by
      rw [coversChars, htail]
    rw [hnext, ih, splitOn_wildcard, splitOn_dot name, htail]
    exact (fits_asterisk (List.splitOn_ne_nil _ _)).symm
  | case2 name rest hnone =>
    have hnot : coversChars name ('*' :: '.' :: rest) = false := by
      rw [coversChars, hnone]
    rw [hnot, splitOn_wildcard, splitOn_dot name, hnone]
    constructor
    · intro h
      cases h
    · intro hfits
      have hlength : 0 = (rest.splitOn '.').length := by simpa using hfits.length_eq
      exact absurd (List.length_eq_zero_iff.mp hlength.symm) (List.splitOn_ne_nil _ _)
  | case3 name certHost hliteral =>
    have hsame : coversChars name certHost = decide (name = certHost) := by
      rw [coversChars]
      exact hliteral
    rw [hsame, decide_eq_true_eq, fits_iff_eq (wildcards_eq_zero hliteral)]
    exact splitOn_injective.eq_iff.symm

/-- A host covers a name exactly if the name has as many labels and, from the first label on that is no
wildcard, the same ones; in other words, if it is any labels, one for each wildcard, followed by the rest
of the host as it stands. -/
theorem covers_iff_labels (certHost name : String) :
    (covers certHost name = true ↔
      (labels name).length = (labels certHost).length ∧
        ∀ i, wildcards (labels certHost) ≤ i → (labels name)[i]? = (labels certHost)[i]?) ∧
    (covers certHost name = true ↔
      ∃ front, front.length = wildcards (labels certHost) ∧
        labels name = front ++ (labels certHost).drop (wildcards (labels certHost))) := by
  have hfits : covers certHost name = true ↔ Fits (labels name) (labels certHost) :=
    coversChars_iff_fits name.toList certHost.toList
  constructor
  · rw [hfits]
    exact ⟨fun h => ⟨h.length_eq, h.agree⟩, fun h => ⟨h.1, h.2⟩⟩
  · rw [hfits, fits_iff_append]

example : labels "*.*.shop" = [['*'], ['*'], "shop".toList] ∧ wildcards (labels "*.*.shop") = 2 ∧
    covers "*.*.shop" "a.b.shop" = true ∧ covers "*.*.shop" "b.shop" = false ∧
    covers "a.*.shop" "a.b.shop" = false ∧ wildcards (labels "*.*") = 1 ∧
    covers "*.*" "a.b" = false ∧ covers "*.*" "a.*" = true := by
  decide +kernel

end IngressProxy.Host

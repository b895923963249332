import IngressProxy.Http.Header
import IngressProxy.Proofs.Text.Readable
import IngressProxy.Proofs.Text.Utf8

namespace IngressProxy

namespace Headers

variable (h : Headers) (name other : HeaderName) (v : HeaderValue)

theorem values_erase : (h.erase name).values other = if name = other then [] else h.values other := by
  have hfilter : (h.entries.filter (·.1 ≠ name)).filter (·.1 = other) =
      if name = other then [] else h.entries.filter (·.1 = other) := by
    rw [List.filter_filter]
    split
    · rename_i heq
      subst heq
      exact List.filter_eq_nil_iff.mpr (by simp)
    · rename_i hne
      refine List.filter_congr fun e _ => ?_
      by_cases he : e.1 = other
      · simp [he, Ne.symm hne]
      · simp [he]
  simp only [values, erase, hfilter]
  split <;> rfl

theorem values_append :
    (h.append name v).values other = h.values other ++ if name = other then [v] else [] := by
  by_cases heq : name = other <;> simp [values, append, heq]

theorem values_set : (h.set name v).values other = if name = other then [v] else h.values other := by
  rw [set, values_append, values_erase]
  split <;> simp

/-- A name that gets one value leaves the other fields as they are, and in their order. -/
theorem erase_set : (h.set name v).erase name = h.erase name := by
  simp [set, erase, append]

theorem values_eraseAll (names : List HeaderName) :
    (h.eraseAll names).values other = if other ∈ names then [] else h.values other := by
  induction names generalizing h with
  | nil => rfl
  | cons name names ih =>
    rw [eraseAll, List.foldl_cons, ← eraseAll, ih, values_erase]
    by_cases hmem : other ∈ names
    · simp [hmem]
    · by_cases heq : name = other
      · simp [heq]
      · simp [hmem, heq, Ne.symm heq]

theorem values_eq_nil_of_first? (hfirst : h.first? name = none) : h.values name = [] :=
  List.head?_eq_none_iff.mp hfirst

end Headers

namespace Http

theorem toNat_charOfNat {n : Nat} (h : n < 128) : (Char.ofNat n).toNat = n := by
  have hvalid : n.isValidChar := .inl (by omega)
  rw [Char.ofNat, dif_pos hvalid]
  rfl

theorem encode_ascii {bs : Bytes} (h : ∀ b ∈ bs, b < 128) : Utf8.encode (ascii bs) = bs := by
  rw [Utf8.encode_eq_flatMap, ascii, String.toList_ofList, List.flatMap_map]
  have hbyte : ∀ b ∈ bs, String.utf8EncodeChar (Char.ofNat b.toNat) = [b] := by
    intro b hb
    have hlt : b.toNat < 128 := UInt8.lt_iff_toNat_lt.mp (h b hb)
    have hchar := toNat_charOfNat hlt
    have hascii : (Char.ofNat b.toNat).toNat < 128 := by rw [hchar]; exact hlt
    rw [Utf8.encodeChar_of_lt hascii, hchar, UInt8.ofNat_toNat]
  calc bs.flatMap (fun b => String.utf8EncodeChar (Char.ofNat b.toNat))
      = bs.flatMap (fun b => [b]) := List.flatMap_congr hbyte
    _ = bs := List.flatMap_singleton' bs

theorem ascii_encode {s : String} (h : ∀ b ∈ Utf8.encode s, b < 128) :
    ascii (Utf8.encode s) = s :=
  Utf8.encode_injective (encode_ascii h)

end Http

namespace HeaderValue

theorem toNat_of_isVisible {b : UInt8} (h : isVisible b = true) :
    b = 9 ∨ (32 ≤ b.toNat ∧ b.toNat < 127) := by
  simpa [isVisible, UInt8.lt_iff_toNat_lt, UInt8.le_iff_toNat_le] using h

theorem lt_of_isVisible {b : UInt8} (h : isVisible b = true) : b < 128 := by
  rw [UInt8.lt_iff_toNat_lt]
  obtain rfl | ⟨-, hhigh⟩ := toNat_of_isVisible h
  · decide
  · exact Nat.lt_succ_of_lt hhigh

/-- The bytes of readable values may stand in a value. -/
theorem isValid_of_isVisible {b : UInt8} (h : isVisible b = true) : isValid b = true := by
  obtain rfl | ⟨hlow, hhigh⟩ := toNat_of_isVisible h
  · decide
  · have hne : b ≠ 127 := by
      rintro rfl
      exact absurd hhigh (by decide)
    have hle : 32 ≤ b := UInt8.le_iff_toNat_le.mpr hlow
    simp [isValid, hle, hne]

/-- A readable value is that of its text. -/
theorem eq_lit_of_readable? {v : HeaderValue} {s : String} (h : v.readable? = some s) :
    v = .lit s := by
  unfold readable? at h
  split at h
  · rename_i hvisible
    obtain rfl : _ = s := Option.some.inj h
    rw [lit, Http.encode_ascii fun b hb => lt_of_isVisible (List.all_eq_true.mp hvisible b hb)]
  · cases h

theorem isReadable_of_readable? {v : HeaderValue} {s : String} (h : v.readable? = some s) :
    IsReadable s := by
  unfold readable? at h
  split at h
  · rename_i hvisible
    obtain rfl : _ = s := Option.some.inj h
    intro c hc
    rw [Http.ascii, String.toList_ofList] at hc
    obtain ⟨b, hb, rfl⟩ := List.mem_map.mp hc
    obtain rfl | hb := toNat_of_isVisible (List.all_eq_true.mp hvisible b hb)
    · exact .inl rfl
    · exact .inr (by rwa [Http.toNat_charOfNat (by omega)])
  · cases h

theorem isVisible_of_mem_encode {s : String} (h : IsReadable s) :
    ∀ b ∈ Utf8.encode s, isVisible b = true := by
  have hascii : ∀ c ∈ s.toList, c.toNat < 128 := by
    intro c hc
    obtain rfl | ⟨-, hhigh⟩ := h c hc
    · decide
    · omega
  intro b hb
  rw [Utf8.encode_of_ascii hascii] at hb
  obtain ⟨c, hc, rfl⟩ := List.mem_map.mp hb
  obtain rfl | ⟨hlow, hhigh⟩ := h c hc
  · decide
  · have hmod : c.toNat % 256 = c.toNat := Nat.mod_eq_of_lt (by omega)
    simp [isVisible, UInt8.lt_iff_toNat_lt, UInt8.le_iff_toNat_le, hmod, hlow, hhigh]

/-- A readable text is a value. -/
theorem ofText?_eq_lit {s : String} (h : IsReadable s) : ofText? s = some (.lit s) := by
  have hvalid : (Utf8.encode s).all isValid = true :=
    List.all_eq_true.mpr fun b hb => isValid_of_isVisible (isVisible_of_mem_encode h b hb)
  simp [ofText?, ofBytes?, hvalid, lit]

/-- The value of a readable text is read as that text. -/
theorem readable?_lit {s : String} (h : IsReadable s) : (lit s).readable? = some s := by
  have hvisible := isVisible_of_mem_encode h
  have htext : Http.ascii (Utf8.encode s) = s :=
    Http.ascii_encode fun b hb => lt_of_isVisible (hvisible b hb)
  rw [readable?, lit, if_pos (List.all_eq_true.mpr hvisible), htext]

end HeaderValue

theorem Headers.readable_of_values {h : Headers} {name : HeaderName} {s : String}
    (hvalues : h.values name = [.lit s]) (hs : IsReadable s) : h.readable name = [s] := by
  rw [readable, hvalues, List.filterMap_cons_some (HeaderValue.readable?_lit hs), List.filterMap_nil]

end IngressProxy

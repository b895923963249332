import IngressProxy.Proofs.Http.Headers
import Mathlib.Data.List.TakeWhile

namespace IngressProxy

namespace Http

def IsTokenChar (c : Char) : Prop := c.toNat < 128 ∧ isTokenByte (UInt8.ofNat c.toNat) = true

instance (c : Char) : Decidable (IsTokenChar c) := inferInstanceAs (Decidable (_ ∧ _))

theorem lt_of_isTokenByte {b : UInt8} (h : isTokenByte b = true) : b < 128 := by
  have hascii : ∀ n < 256, isTokenByte (UInt8.ofNat n) = true → n < 128 := by decide +kernel
  rw [UInt8.lt_iff_toNat_lt]
  exact hascii b.toNat b.toNat_lt (by rwa [UInt8.ofNat_toNat])

theorem all_isTokenByte_encode (s : String) :
    (Utf8.encode s).all isTokenByte = true ↔ ∀ c ∈ s.toList, IsTokenChar c := by
  constructor
  · intro h c hc
    have hbyte := List.all_eq_true.mp h
    rw [← ascii_encode fun b hb => lt_of_isTokenByte (hbyte b hb), ascii, String.toList_ofList] at hc
    obtain ⟨b, hb, rfl⟩ := List.mem_map.mp hc
    have hlt : b.toNat < 128 := UInt8.lt_iff_toNat_lt.mp (lt_of_isTokenByte (hbyte b hb))
    rw [IsTokenChar, toNat_charOfNat hlt, UInt8.ofNat_toNat]
    exact ⟨hlt, hbyte b hb⟩
  · intro h
    rw [Utf8.encode_of_ascii fun c hc => (h c hc).1, List.all_map, List.all_eq_true]
    exact fun c hc => (h c hc).2

/-- A letter is one of a token in either case. -/
theorem isTokenChar_of_toLower {c : Char} (h : IsTokenChar c.toLower) : IsTokenChar c := by
  unfold Char.toLower at h
  split at h
  · rename_i hupper
    have hbounds : 65 ≤ c.toNat ∧ c.toNat ≤ 90 := hupper
    have hlt : c.toNat < 256 := by omega
    have hletter : isTokenByte (UInt8.ofNat c.toNat) = true := by
      simp [isTokenByte, UInt8.le_iff_toNat_le, Nat.mod_eq_of_lt hlt, hbounds]
    exact ⟨by omega, hletter⟩
  · exact h

end Http

namespace CommaList

/-- The characters that do not count at the ends of an item. -/
def isBlank (c : Char) : Bool := c = ' ' || c = '\t'

/-- Whether an item of a comma list is a text in some case, with blanks around it or without. -/
def Spells (item text : List Char) : Prop :=
  ∃ left word right, item = left ++ word ++ right ∧ (∀ c ∈ left ++ right, isBlank c = true) ∧
    word.map Char.toLower = text

theorem split_eq_splitOn (cs : List Char) : split cs = cs.splitOn ',' := by
  rw [List.splitOn_eq_splitOnP]
  induction cs with
  | nil => rfl
  | cons c cs ih =>
    rw [List.splitOnP_cons_eq_if_modifyHead, ← ih, split, List.foldr_cons, ← split]
    by_cases hcomma : c = ','
    · simp [hcomma]
    · obtain ⟨item, rest, hsplit⟩ : ∃ item rest, split cs = item :: rest :=
        List.exists_cons_of_ne_nil (ih ▸ List.splitOnP_ne_nil _ cs)
      simp [hcomma, hsplit]

theorem trim_eq (item : List Char) :
    trim item = ((item.dropWhile isBlank).reverse.dropWhile isBlank).reverse := rfl

/-- Trimming takes away blanks at the ends of an item, and nothing else. -/
theorem exists_trim (item : List Char) : ∃ left right, item = left ++ trim item ++ right ∧
    ∀ c ∈ left ++ right, isBlank c = true := by
  have hback (cs : List Char) : cs =
      (cs.reverse.dropWhile isBlank).reverse ++ (cs.reverse.takeWhile isBlank).reverse := by
    rw [← List.reverse_append, List.takeWhile_append_dropWhile, List.reverse_reverse]
  refine ⟨item.takeWhile isBlank, ((item.dropWhile isBlank).reverse.takeWhile isBlank).reverse, ?_, ?_⟩
  · rw [List.append_assoc, trim_eq, ← hback, List.takeWhile_append_dropWhile]
  · intro c hc
    rw [List.mem_append, List.mem_reverse] at hc
    exact hc.elim (List.mem_takeWhile_imp ·) (List.mem_takeWhile_imp ·)

theorem dropWhile_isBlank {left word : List Char} (hleft : ∀ c ∈ left, isBlank c = true)
    (hword : ∀ c ∈ word, isBlank c = false) (hne : word ≠ []) (rest : List Char) :
    (left ++ word ++ rest).dropWhile isBlank = word ++ rest := by
  obtain ⟨c, word, rfl⟩ := List.exists_cons_of_ne_nil hne
  rw [List.append_assoc, List.dropWhile_append_of_pos hleft]
  exact List.dropWhile_cons_of_neg (by simp [hword c List.mem_cons_self])

theorem trim_append {left word right : List Char} (hblank : ∀ c ∈ left ++ right, isBlank c = true)
    (hword : ∀ c ∈ word, isBlank c = false) (hne : word ≠ []) :
    trim (left ++ word ++ right) = word := by
  rw [List.forall_mem_append] at hblank
  have hfront := dropWhile_isBlank hblank.1 hword hne right
  have hright : ∀ c ∈ right.reverse, isBlank c = true := by simpa using hblank.2
  have hword' : ∀ c ∈ word.reverse, isBlank c = false := by simpa using hword
  have hback : (word ++ right).reverse.dropWhile isBlank = word.reverse := by
    simpa using dropWhile_isBlank hright hword' (by simpa using hne) []
  rw [trim_eq, hfront, hback, List.reverse_reverse]

theorem mem_items {s t : String} :
    t ∈ items s ↔ ∃ item ∈ s.toList.splitOn ',', trim item = t.toList := by
  simp only [items, split_eq_splitOn, List.mem_map, ← String.toList_inj, String.toList_ofList]

/-- Trimming finds what an item spells. -/
theorem spells_iff {item text : List Char} (htext : ∀ c ∈ text, isBlank c = false)
    (hne : text ≠ []) : Spells item text ↔ (trim item).map Char.toLower = text := by
  constructor
  · rintro ⟨left, word, right, rfl, hblank, rfl⟩
    rw [trim_append hblank _ (by simpa using hne)]
    intro c hc
    have hlower := htext c.toLower (List.mem_map_of_mem hc)
    rw [← Bool.not_eq_true, isBlank, Bool.or_eq_true, decide_eq_true_eq, decide_eq_true_eq]
    rintro (rfl | rfl)
    · cases hlower
    · cases hlower
  · intro htrim
    obtain ⟨left, right, hitem, hblank⟩ := exists_trim item
    exact ⟨left, trim item, right, hitem, hblank, htrim⟩

end CommaList

namespace HeaderName

/-- Whether a text is a token that is short enough for a name. -/
structure IsToken (cs : List Char) : Prop where
  nonempty : cs ≠ []
  short : cs.length ≤ maxLength
  token : ∀ c ∈ cs, Http.IsTokenChar c

theorem isToken_of_map_toLower {cs : List Char} (h : IsToken (cs.map Char.toLower)) : IsToken cs where
  nonempty := by simpa using h.nonempty
  short := by simpa using h.short
  token c hc := Http.isTokenChar_of_toLower (h.token _ (List.mem_map_of_mem hc))

theorem isToken_toList_iff (s : String) :
    IsToken s.toList ↔ Utf8.encode s ≠ [] ∧ (Utf8.encode s).length ≤ maxLength ∧
      (Utf8.encode s).all Http.isTokenByte = true := by
  have hbytes (h : ∀ c ∈ s.toList, Http.IsTokenChar c) :=
    Utf8.encode_of_ascii fun c hc => (h c hc).1
  rw [Http.all_isTokenByte_encode]
  constructor
  · rintro ⟨hnonempty, hshort, htoken⟩
    rw [hbytes htoken, List.length_map]
    exact ⟨by simpa using hnonempty, hshort, htoken⟩
  · rintro ⟨hnonempty, hshort, htoken⟩
    rw [hbytes htoken] at hnonempty hshort
    rw [List.length_map] at hshort
    exact ⟨by simpa using hnonempty, hshort, htoken⟩

theorem ofText?_eq_some_iff {s : String} {n : HeaderName} :
    ofText? s = some n ↔ IsToken s.toList ∧ s.toList.map Char.toLower = n.text.toList := by
  obtain ⟨text⟩ := n
  by_cases htoken : IsToken s.toList
  · obtain ⟨hnonempty, hshort, hall⟩ := (isToken_toList_iff s).mp htoken
    have hascii : Http.ascii (Utf8.encode s) = s :=
      Http.ascii_encode fun b hb => Http.lt_of_isTokenByte (List.all_eq_true.mp hall b hb)
    have hread : ofText? s = some ⟨String.ofList (s.toList.map Char.toLower)⟩ := by
      simp [ofText?, ofBytes?, hascii, hnonempty, hshort, hall]
    rw [hread, and_iff_right htoken, Option.some.injEq, mk.injEq, ← String.toList_inj,
      String.toList_ofList]
  · have hread : ofText? s = none := by
      rw [isToken_toList_iff, not_and, not_and, Bool.not_eq_true] at htoken
      simpa [ofText?, ofBytes?, or_iff_not_imp_left] using htoken
    simp [hread, htoken]

/-- Whether a name is one that a field can have: what is read from its own text. -/
def IsName (n : HeaderName) : Prop := ofText? n.text = some n

instance (n : HeaderName) : Decidable n.IsName :=
  inferInstanceAs (Decidable (ofText? n.text = some n))

theorem IsName.isToken {n : HeaderName} (hn : n.IsName) : IsToken n.text.toList :=
  (ofText?_eq_some_iff.mp hn).1

theorem IsName.isBlank_eq_false {n : HeaderName} (hn : n.IsName) :
    ∀ c ∈ n.text.toList, CommaList.isBlank c = false := by
  intro c hc
  have htoken := hn.isToken.token c hc
  rw [CommaList.isBlank, Bool.or_eq_false_iff, decide_eq_false_iff_not, decide_eq_false_iff_not]
  constructor
  · rintro rfl
    exact absurd htoken (by decide)
  · rintro rfl
    exact absurd htoken (by decide)

theorem IsName.ofText?_eq_some_iff {n : HeaderName} (hn : n.IsName) {s : String} :
    ofText? s = some n ↔ s.toList.map Char.toLower = n.text.toList := by
  rw [HeaderName.ofText?_eq_some_iff, and_iff_right_iff_imp]
  intro htext
  exact isToken_of_map_toLower (htext ▸ hn.isToken)

end HeaderName

namespace Headers

variable {h : Headers} {n : HeaderName}

/-- Whether the connection options of a message name a field: among their readable values, read as
comma lists, some item spells its name. -/
def Names (h : Headers) (n : HeaderName) : Prop :=
  ∃ v ∈ h.values .connection, ∃ line, v.readable? = some line ∧
    ∃ item ∈ line.toList.splitOn ',', CommaList.Spells item n.text.toList

/-- The connection options name a field exactly if one of the tokens found in them is its name. -/
theorem names_iff (hn : n.IsName) :
    h.Names n ↔ ∃ t ∈ h.connectionTokens, t.toList.map Char.toLower = n.text.toList := by
  have hspells (item : List Char) : CommaList.Spells item n.text.toList ↔
      (CommaList.trim item).map Char.toLower = n.text.toList :=
    CommaList.spells_iff hn.isBlank_eq_false hn.isToken.nonempty
  simp only [connectionTokens, readable, List.mem_filter, List.mem_flatMap, List.mem_filterMap,
    CommaList.mem_items, decide_eq_true_eq]
  constructor
  · rintro ⟨v, hv, line, hline, item, hitem, hspelled⟩
    have htrim := (hspells item).mp hspelled
    refine ⟨String.ofList (CommaList.trim item),
      ⟨⟨line, ⟨v, hv, hline⟩, item, hitem, String.toList_ofList.symm⟩, ?_⟩, ?_⟩
    · intro hempty
      rw [String.ofList_eq_empty_iff] at hempty
      rw [hempty] at htrim
      exact hn.isToken.nonempty htrim.symm
    · rw [String.toList_ofList, htrim]
  · rintro ⟨t, ⟨⟨line, ⟨v, hv, hline⟩, item, hitem, htrim⟩, -⟩, hname⟩
    exact ⟨v, hv, line, hline, item, hitem, (hspells item).mpr (htrim ▸ hname)⟩

end Headers

end IngressProxy

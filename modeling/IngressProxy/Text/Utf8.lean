namespace IngressProxy

abbrev Bytes := List UInt8

namespace Utf8

/-- A character of which more bytes are expected: how many, the bounds of the next, the value so far. -/
structure Pending where
  need : Nat
  low : UInt8
  high : UInt8
  value : Nat

/-- What the first byte of a character announces. -/
inductive Lead where
  | char (c : Char)
  | more (p : Pending)
  | bad

/-- The first byte decides the length, and for a few bytes narrows the second, so that overlong
forms, surrogates and values above U+10FFFF are refused at their second byte. -/
def lead (b : UInt8) : Lead :=
  let n := b.toNat
  if n < 0x80 then .char (Char.ofNat n)
  else if n < 0xC2 then .bad
  else if n < 0xE0 then .more ⟨1, 0x80, 0xBF, n - 0xC0⟩
  else if n = 0xE0 then .more ⟨2, 0xA0, 0xBF, 0⟩
  else if n = 0xED then .more ⟨2, 0x80, 0x9F, 0xD⟩
  else if n < 0xF0 then .more ⟨2, 0x80, 0xBF, n - 0xE0⟩
  else if n = 0xF0 then .more ⟨3, 0x90, 0xBF, 0⟩
  else if n < 0xF4 then .more ⟨3, 0x80, 0xBF, n - 0xF0⟩
  else if n = 0xF4 then .more ⟨3, 0x80, 0x8F, 4⟩
  else .bad

/-- The character that stands for bytes that are no text. -/
def replacement : Char := '\uFFFD'

/-- Reads on from an unfinished character, if there is one. -/
def decodeFrom : Option Pending → Bytes → List Char
  | none, [] => []
  | some _, [] => [replacement]
  | none, b :: bs =>
    match lead b with
    | .char c => c :: decodeFrom none bs
    | .more p => decodeFrom (some p) bs
    | .bad => replacement :: decodeFrom none bs
  | some p, b :: bs =>
    if p.low ≤ b ∧ b ≤ p.high then
      let v := p.value * 64 + (b.toNat - 0x80)
      if p.need ≤ 1 then Char.ofNat v :: decodeFrom none bs
      else decodeFrom (some ⟨p.need - 1, 0x80, 0xBF, v⟩) bs
    else
      replacement ::
        match lead b with
        | .char c => c :: decodeFrom none bs
        | .more q => decodeFrom (some q) bs
        | .bad => replacement :: decodeFrom none bs

/-- The text of a byte string: each maximal part of the bytes that no UTF-8 text can contain is read
as U+FFFD. -/
def decode (bs : Bytes) : String := String.ofList (decodeFrom none bs)

def encode (s : String) : Bytes := s.toUTF8.toList

end Utf8

end IngressProxy

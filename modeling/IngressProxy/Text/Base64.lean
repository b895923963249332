import IngressProxy.Text.Utf8

namespace IngressProxy.Base64

/-- The six bits of a character of the standard alphabet. -/
def digit? (b : UInt8) : Option Nat :=
  let n := b.toNat
  if 65 ≤ n ∧ n ≤ 90 then some (n - 65)
  else if 97 ≤ n ∧ n ≤ 122 then some (n - 71)
  else if 48 ≤ n ∧ n ≤ 57 then some (n + 4)
  else if n = 43 then some 62
  else if n = 47 then some 63
  else none

def pad : UInt8 := 61

def byte0 (a b : Nat) : UInt8 := UInt8.ofNat (a * 4 + b / 16)

def byte1 (b c : Nat) : UInt8 := UInt8.ofNat (b % 16 * 16 + c / 4)

def byte2 (c d : Nat) : UInt8 := UInt8.ofNat (c % 4 * 64 + d)

/-- Canonical text only: padding fills the last group, whose unused bits are zero. -/
def decodeCanonical? : Bytes → Option Bytes
  | [] => some []
  | a :: b :: c :: d :: rest => do
    let va ← digit? a
    let vb ← digit? b
    if d = pad ∧ rest.isEmpty then
      if c = pad then
        if vb % 16 = 0 then some [byte0 va vb] else none
      else
        let vc ← digit? c
        if vc % 4 = 0 then some [byte0 va vb, byte1 vb vc] else none
    else
      let vc ← digit? c
      let vd ← digit? d
      let bs ← decodeCanonical? rest
      some (byte0 va vb :: byte1 vb vc :: byte2 vc vd :: bs)
  | _ => none

/-- The blanks that a relaxed reader skips. -/
def isBlank (b : UInt8) : Bool := (9 ≤ b && b ≤ 13) || b = 32

/-- Reads text without blanks. The last group may lack its padding; bits beyond the last byte are
not looked at. -/
def decodeGroups? : Bytes → Option Bytes
  | [] => some []
  | [a, b] => do some [byte0 (← digit? a) (← digit? b)]
  | [a, b, c] => do
    let vb ← digit? b
    some [byte0 (← digit? a) vb, byte1 vb (← digit? c)]
  | a :: b :: c :: d :: rest => do
    let va ← digit? a
    let vb ← digit? b
    if d = pad ∧ rest.isEmpty then
      if c = pad then some [byte0 va vb]
      else
        let vc ← digit? c
        some [byte0 va vb, byte1 vb vc]
    else
      let vc ← digit? c
      let vd ← digit? d
      let bs ← decodeGroups? rest
      some (byte0 va vb :: byte1 vb vc :: byte2 vc vd :: bs)
  | _ => none

/-- Reads text that may be broken into lines. -/
def decodeRelaxed? (bs : Bytes) : Option Bytes := decodeGroups? (bs.filter (!isBlank ·))

end IngressProxy.Base64

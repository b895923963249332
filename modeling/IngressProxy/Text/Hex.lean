import IngressProxy.Text.Utf8

namespace IngressProxy.Hex

def digit? (c : Char) : Option Nat :=
  if '0' ≤ c ∧ c ≤ '9' then some (c.toNat - '0'.toNat)
  else if 'a' ≤ c ∧ c ≤ 'f' then some (c.toNat - 'a'.toNat + 10)
  else if 'A' ≤ c ∧ c ≤ 'F' then some (c.toNat - 'A'.toNat + 10)
  else none

/-- The number that a run of digits stands for, the first one weighing most. -/
def number? (cs : List Char) : Option Nat :=
  cs.foldl (fun acc c => do some ((← acc) * 16 + (← digit? c))) (some 0)

/-- The digit of a number below sixteen, in lower case. -/
def digit (n : Nat) : Char :=
  if n < 10 then Char.ofNat ('0'.toNat + n) else Char.ofNat ('a'.toNat + (n - 10))

/-- Two digits for each byte. -/
def encode (bs : Bytes) : String :=
  String.ofList (bs.flatMap fun b => [digit (b.toNat / 16), digit (b.toNat % 16)])

def decodeChars? : List Char → Option Bytes
  | [] => some []
  | a :: b :: rest => do
    let hi ← digit? a
    let lo ← digit? b
    let bs ← decodeChars? rest
    some (UInt8.ofNat (hi * 16 + lo) :: bs)
  | [_] => none

def decode? (s : String) : Option Bytes := decodeChars? s.toList

/-- The digits of a number, without leading zeros. -/
def ofNat (n : Nat) : String := String.ofList (Nat.toDigits 16 n)

end IngressProxy.Hex

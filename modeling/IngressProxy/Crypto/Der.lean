import IngressProxy.Text.Utf8

namespace IngressProxy.Der

/-- A reader consumes bytes from the front, or refuses them. -/
abbrev Reader := StateT Bytes Option

def tagInteger : UInt8 := 0x02
def tagBitString : UInt8 := 0x03
def tagOctetString : UInt8 := 0x04
def tagSequence : UInt8 := 0x30
def tagContext1 : UInt8 := 0x81
def tagConstructed0 : UInt8 := 0xA0
def tagConstructed1 : UInt8 := 0xA1

def byte : Reader UInt8 := fun
  | [] => none
  | b :: bs => some (b, bs)

def take (n : Nat) : Reader Bytes := fun bs =>
  if n ≤ bs.length then some (bs.take n, bs.drop n) else none

/-- A length in its shortest form, with at most two bytes beyond the first. -/
def length : Reader Nat := do
  let b ← byte
  if b < 0x80 then return b.toNat
  if b = 0x81 then
    let n := (← byte).toNat
    if n < 128 then failure
    return n
  if b = 0x82 then
    let hi := (← byte).toNat
    let n := hi * 256 + (← byte).toNat
    if n < 256 then failure
    return n
  failure

def element (tag : UInt8) : Reader Bytes := do
  if (← byte) = tag then take (← length) else failure

def peek (tag : UInt8) : Reader Bool := fun bs => some (bs.head? = some tag, bs)

/-- Runs a reader on bytes that it has to use up. -/
def readAll {α : Type} (r : Reader α) (bs : Bytes) : Option α :=
  match r bs with
  | some (a, []) => some a
  | _ => none

/-- An element whose contents are read by `r`. -/
def nested {α : Type} (tag : UInt8) (r : Reader α) : Reader α := do
  match readAll r (← element tag) with
  | some a => return a
  | none => failure

/-- The number whose bytes these are, the first one weighing most. -/
def ofBytes (bs : Bytes) : Nat := bs.foldl (fun n b => n * 256 + b.toNat) 0

/-- A number that is not negative, without idle leading zeros. -/
def natural : Reader Nat := do
  match ← element tagInteger with
  | [] => failure
  | [b] => if b < 0x80 then return b.toNat else failure
  | b :: c :: rest =>
    if b ≥ 0x80 then failure
    if b = 0 ∧ c < 0x80 then failure
    return ofBytes (b :: c :: rest)

/-- A bit string of whole bytes. -/
def bitString (tag : UInt8) : Reader Bytes := do
  match ← element tag with
  | 0 :: bits => return bits
  | _ => failure

end IngressProxy.Der

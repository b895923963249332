import IngressProxy.Text.Hex

namespace IngressProxy

/-- An address of a host: four bytes or eight groups. -/
inductive IpAddress where
  | v4 (a b c d : UInt8)
  | v6 (groups : List UInt16)
  deriving DecidableEq, Repr

namespace IpAddress

/-- Reads a decimal number of at most `width` digits that does not exceed `limit`. -/
def readDecimal? (width limit : Nat) (cs : List Char) : Option Nat :=
  if cs.isEmpty || cs.length > width || !cs.all Char.isDigit then none
  else
    let n := cs.foldl (fun n c => n * 10 + (c.toNat - '0'.toNat)) 0
    if n ≤ limit then some n else none

def splitAt (sep : Char) (cs : List Char) : List (List Char) :=
  cs.foldr (fun c acc =>
    if c = sep then [] :: acc
    else
      match acc with
      | [] => [[c]]
      | item :: rest => (c :: item) :: rest) [[]]

/-- One of four bytes: a decimal number without leading zeros. -/
def readByte? (cs : List Char) : Option UInt8 :=
  match cs with
  | '0' :: _ :: _ => none
  | _ => (readDecimal? 3 255 cs).map UInt8.ofNat

def readV4? (cs : List Char) : Option IpAddress :=
  match (splitAt '.' cs).mapM readByte? with
  | some [a, b, c, d] => some (.v4 a b c d)
  | _ => none

/-- A group: at most four hexadecimal digits. -/
def readGroup? (cs : List Char) : Option UInt16 :=
  if cs.isEmpty || cs.length > 4 then none else (Hex.number? cs).map UInt16.ofNat

/-- Groups parted by colons; the last two may be written as four bytes. -/
def readGroups? (cs : List Char) : Option (List UInt16) :=
  if cs.isEmpty then some []
  else
    let parts := splitAt ':' cs
    match parts.reverse with
    | [] => none
    | last :: front =>
      match readV4? last with
      | some (.v4 a b c d) => do
        let groups ← front.reverse.mapM readGroup?
        some (groups ++ [a.toUInt16 * 256 + b.toUInt16, c.toUInt16 * 256 + d.toUInt16])
      | _ => parts.mapM readGroup?

/-- Splits a text at the first pair of colons. -/
def splitGap? : List Char → Option (List Char × List Char)
  | ':' :: ':' :: rest => some ([], rest)
  | c :: rest => (splitGap? rest).map fun r => (c :: r.1, r.2)
  | [] => none

/-- Eight groups, of which one run of zeros may be left out between two colons. -/
def readV6? (cs : List Char) : Option IpAddress :=
  match splitGap? cs with
  | none => do
    let groups ← readGroups? cs
    if groups.length = 8 then some (.v6 groups) else none
  | some (front, back) => do
    if front.contains '.' then none
    let a ← readGroups? front
    let b ← readGroups? back
    if a.length + b.length < 8 then
      some (.v6 (a ++ List.replicate (8 - a.length - b.length) 0 ++ b))
    else none

def parse? (s : String) : Option IpAddress := readV4? s.toList <|> readV6? s.toList

/-- The longest run of zeros, the first of equal ones: where it starts and how long it is. -/
def longestGap (groups : List UInt16) : Nat × Nat :=
  let runs := (List.range groups.length).map fun i =>
    (i, ((groups.drop i).takeWhile (· = 0)).length)
  runs.foldl (fun best r => if best.2 < r.2 then r else best) (0, 0)

def renderGroups (groups : List UInt16) : String :=
  ":".intercalate (groups.map fun g => Hex.ofNat g.toNat)

def renderV4 (a b c d : UInt8) : String :=
  ".".intercalate ([a, b, c, d].map fun n => toString n.toNat)

/-- The address as text. Of eight groups the longest run of two zeros or more is left out; an address
that stands for one of four bytes shows them. -/
def render : IpAddress → String
  | .v4 a b c d => renderV4 a b c d
  | .v6 groups =>
    match groups with
    | [0, 0, 0, 0, 0, 0xFFFF, x, y] =>
      "::ffff:" ++ renderV4 (x / 256).toUInt8 (x % 256).toUInt8 (y / 256).toUInt8 (y % 256).toUInt8
    | _ =>
      let (start, length) := longestGap groups
      if length > 1 then
        renderGroups (groups.take start) ++ "::" ++ renderGroups (groups.drop (start + length))
      else renderGroups groups

/-- Whether the address means every address of the host. -/
def isUnspecified : IpAddress → Bool
  | .v4 a b c d => [a, b, c, d].all (· = 0)
  | .v6 groups => groups.all (· = 0)

/-- Whether the address leads back to the host itself. -/
def isLoopback : IpAddress → Bool
  | .v4 a _ _ _ => a = 127
  | .v6 groups => groups = [0, 0, 0, 0, 0, 0, 0, 1]

end IpAddress

/-- The address of a listener. A zone may be given with an address of eight groups. -/
structure SocketAddress where
  ip : IpAddress
  zone : UInt32 := 0
  port : UInt16
  deriving DecidableEq, Repr

namespace SocketAddress

/-- A port in decimal; leading zeros do not count. -/
def readPort? (cs : List Char) : Option UInt16 :=
  (IpAddress.readDecimal? cs.length 65535 cs).map UInt16.ofNat

/-- An address of eight groups, with a zone behind a percent sign or without. -/
def readZoned? (cs : List Char) : Option (IpAddress × UInt32) :=
  match IpAddress.splitAt '%' cs with
  | [address] => (IpAddress.readV6? address).map (·, 0)
  | [address, zone] => do
    let ip ← IpAddress.readV6? address
    let n ← IpAddress.readDecimal? zone.length 4294967295 zone
    some (ip, UInt32.ofNat n)
  | _ => none

/-- Reads `address:port`, where an address of eight groups stands in brackets. -/
def parse? (s : String) : Option SocketAddress :=
  match s.toList with
  | '[' :: cs => do
    let (ip, zone) ← readZoned? (cs.takeWhile (· ≠ ']'))
    match cs.dropWhile (· ≠ ']') with
    | ']' :: ':' :: port => some { ip, zone, port := ← readPort? port }
    | _ => none
  | cs =>
    match IpAddress.splitAt ':' cs with
    | [address, port] => do some { ip := ← IpAddress.readV4? address, port := ← readPort? port }
    | _ => none

def render (a : SocketAddress) : String :=
  match a.ip with
  | .v4 .. => a.ip.render ++ ":" ++ toString a.port.toNat
  | .v6 _ =>
    "[" ++ a.ip.render ++ (if a.zone = 0 then "" else "%" ++ toString a.zone.toNat) ++ "]:" ++
      toString a.port.toNat

end SocketAddress

end IngressProxy

import IngressProxy.Crypto.Modular
import IngressProxy.Crypto.Sha512

namespace IngressProxy.Edwards

def prime : Nat := (1 <<< 255) - 19

/-- The constant of the curve, `-121665 / 121666`. -/
def d : Nat := (prime - 121665) * Modular.inverse prime 121666 % prime

/-- A point `(X / Z, Y / Z)` together with `T = X Y / Z`. -/
structure Point where
  x : Nat
  y : Nat
  z : Nat
  t : Nat

def zero : Point := ⟨0, 1, 1, 0⟩

/-- The sum of two points, by a rule that holds for all pairs; `k` is twice the curve constant. -/
def add (k : Nat) (p q : Point) : Point :=
  let m := prime
  let a := Modular.sub m p.y p.x * Modular.sub m q.y q.x % m
  let b := (p.y + p.x) * (q.y + q.x) % m
  let c := p.t * k * q.t % m
  let e := 2 * p.z * q.z % m
  let f := Modular.sub m b a
  let g := Modular.sub m e c
  let h := (e + c) % m
  let i := (b + a) % m
  ⟨f * g % m, h * i % m, g * h % m, f * i % m⟩

def mul (k n : Nat) (p : Point) : Point :=
  if h : n = 0 then zero
  else
    let half := mul k (n / 2) (add k p p)
    if n % 2 = 1 then add k half p else half
termination_by n
decreasing_by omega

def baseX : Nat := 0x216936D3CD6E53FEC0A4E231FDD6DC5C692CC7609525A7B2C9562D608F25D51A

/-- The ordinate of the base point, `4 / 5`. -/
def baseY : Nat := 0x6666666666666666666666666666666666666666666666666666666666666658

def base : Point := ⟨baseX, baseY, 1, baseX * baseY % prime⟩

/-- `n` as `k` bytes, the last one weighing most. -/
def littleEndian (k n : Nat) : Bytes := (List.range k).map fun i => UInt8.ofNat (n >>> (8 * i))

/-- The ordinate of a point in 32 bytes, with the parity of the abscissa in the top bit. -/
def encode (p : Point) : Bytes :=
  let inv := Modular.inverse prime p.z
  let x := p.x * inv % prime
  let y := p.y * inv % prime
  littleEndian 32 (y + (x % 2) <<< 255)

/-- The factor of a seed: the first half of its hash, made a multiple of eight with bit 254 as its
highest. -/
def factor (seed : Bytes) : Nat :=
  let n := ((Sha512.hash seed).take 32).foldr (fun b n => b.toNat + 256 * n) 0
  n % (1 <<< 254) / 8 * 8 + (1 <<< 254)

/-- The public key of a seed: a multiple of the base point of the curve `-x² + y² = 1 + d x² y²`. -/
def publicKey (seed : Bytes) : Bytes := encode (mul (2 * d % prime) (factor seed) base)

end IngressProxy.Edwards

import IngressProxy.Crypto.Modular

namespace IngressProxy

/-- A curve `y² = x³ - 3x + b`: its field, the order of its base point, the base point, and the
bytes of a number. -/
structure Curve where
  prime : Nat
  order : Nat
  baseX : Nat
  baseY : Nat
  width : Nat

namespace Curve

/-- A point `(X / Z², Y / Z³)`; the point at infinity has `Z = 0`. -/
structure Point where
  x : Nat
  y : Nat
  z : Nat

def infinity : Point := ⟨1, 1, 0⟩

def double (c : Curve) (p : Point) : Point :=
  let m := c.prime
  if p.z = 0 ∨ p.y = 0 then infinity
  else
    let yy := p.y * p.y % m
    let zz := p.z * p.z % m
    let s := 4 * p.x * yy % m
    let t := 3 * (Modular.sub m p.x zz) * (p.x + zz) % m
    let x := Modular.sub m (t * t) (2 * s % m)
    let y := Modular.sub m (t * Modular.sub m s x) (8 * yy * yy % m)
    ⟨x, y, 2 * p.y * p.z % m⟩

def add (c : Curve) (p q : Point) : Point :=
  let m := c.prime
  if p.z = 0 then q
  else if q.z = 0 then p
  else
    let zp := p.z * p.z % m
    let zq := q.z * q.z % m
    let u1 := p.x * zq % m
    let u2 := q.x * zp % m
    let s1 := p.y * zq * q.z % m
    let s2 := q.y * zp * p.z % m
    if u1 = u2 then
      if s1 = s2 then c.double p else infinity
    else
      let h := Modular.sub m u2 u1
      let r := Modular.sub m s2 s1
      let hh := h * h % m
      let hhh := h * hh % m
      let v := u1 * hh % m
      let x := Modular.sub m (Modular.sub m (r * r) hhh) (2 * v % m)
      let y := Modular.sub m (r * Modular.sub m v x) (s1 * hhh % m)
      ⟨x, y, h * p.z * q.z % m⟩

def mul (c : Curve) (k : Nat) (p : Point) : Point :=
  if h : k = 0 then infinity
  else
    let half := c.mul (k / 2) (c.double p)
    if k % 2 = 1 then c.add half p else half
termination_by k
decreasing_by omega

/-- The two coordinates of a point that is not at infinity. -/
def affine (c : Curve) (p : Point) : Nat × Nat :=
  let inv := Modular.inverse c.prime p.z
  let inv2 := inv * inv % c.prime
  (p.x * inv2 % c.prime, p.y * inv2 * inv % c.prime)

def publicPoint (c : Curve) (k : Nat) : Nat × Nat := c.affine (c.mul k ⟨c.baseX, c.baseY, 1⟩)

def p256 : Curve where
  prime := 0xFFFFFFFF00000001000000000000000000000000FFFFFFFFFFFFFFFFFFFFFFFF
  order := 0xFFFFFFFF00000000FFFFFFFFFFFFFFFFBCE6FAADA7179E84F3B9CAC2FC632551
  baseX := 0x6B17D1F2E12C4247F8BCE6E563A440F277037D812DEB33A0F4A13945D898C296
  baseY := 0x4FE342E2FE1A7F9B8EE7EB4A7C0F9E162BCE33576B315ECECBB6406837BF51F5
  width := 32

def p384 : Curve where
  prime := 0xFFFFFFFFFFFFFFFFFFFFFFFFFFFFFFFFFFFFFFFFFFFFFFFFFFFFFFFFFFFFFFFEFFFFFFFF0000000000000000FFFFFFFF
  order := 0xFFFFFFFFFFFFFFFFFFFFFFFFFFFFFFFFFFFFFFFFFFFFFFFFC7634D81F4372DDF581A0DB248B0A77AECEC196ACCC52973
  baseX := 0xAA87CA22BE8B05378EB1C71EF320AD746E1D3B628BA79B9859F741E082542A385502F25DBF55296C3A545E3872760AB7
  baseY := 0x3617DE4A96262C6F5D9E98BF9292DC29F8F41DBD289A147CE9DA3113B5F0B8C00A60B1CE1D7E819D7A431D7C90EA0E5F
  width := 48

end Curve

end IngressProxy

namespace IngressProxy.Modular

/-- `b ^ e` modulo `m`, by squaring. -/
def pow (m b e : Nat) : Nat :=
  if h : e = 0 then 1 % m
  else
    let half := pow m (b * b % m) (e / 2)
    if e % 2 = 1 then b * half % m else half
termination_by e
decreasing_by omega

/-- The inverse of `a` modulo a prime `p`, which is `a ^ (p - 2)`. -/
def inverse (p a : Nat) : Nat := pow p a (p - 2)

/-- `a - b` modulo `m`, for `b` below `m`. -/
def sub (m a b : Nat) : Nat := (a + (m - b)) % m

end IngressProxy.Modular

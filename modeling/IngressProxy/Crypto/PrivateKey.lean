import IngressProxy.Crypto.Curve
import IngressProxy.Crypto.Der
import IngressProxy.Crypto.Edwards

namespace IngressProxy

inductive SignatureAlgorithm where
  | rsa
  | ecdsa
  | ed25519
  deriving DecidableEq, Repr

def SignatureAlgorithm.name : SignatureAlgorithm → String
  | .rsa => "RSA"
  | .ecdsa => "ECDSA"
  | .ed25519 => "ED25519"

/-- The formats of private keys: of RSA keys, of any key, of keys on a curve. -/
inductive KeyFormat where
  | pkcs1
  | pkcs8
  | sec1
  deriving DecidableEq, Repr

namespace PrivateKey

open Der

def rsaId : Bytes := [0x06, 0x09, 0x2A, 0x86, 0x48, 0x86, 0xF7, 0x0D, 0x01, 0x01, 0x01, 0x05, 0x00]

def curveKeyOid : Bytes := [0x06, 0x07, 0x2A, 0x86, 0x48, 0xCE, 0x3D, 0x02, 0x01]

def p256Oid : Bytes := [0x06, 0x08, 0x2A, 0x86, 0x48, 0xCE, 0x3D, 0x03, 0x01, 0x07]

def p384Oid : Bytes := [0x06, 0x05, 0x2B, 0x81, 0x04, 0x00, 0x22]

def ed25519Id : Bytes := [0x06, 0x03, 0x2B, 0x65, 0x70]

/-- Reads the wrapping of a key of any kind: the version must be 0, or 1 where a public key may
follow, and the algorithm the expected one. The public key is tagged in the standard way or in an
older one. -/
def wrapped (algorithm : Bytes) (publicAllowed : Bool) : Reader (Bytes × Option Bytes) :=
  nested tagSequence do
    let version ← natural
    if version > 1 then failure
    if (← element tagSequence) ≠ algorithm then failure
    if version = 1 ∧ !publicAllowed then failure
    let key ← element tagOctetString
    if ← peek tagConstructed0 then
      let _ ← element tagConstructed0
    if version = 1 then
      if ← peek tagConstructed1 then
        let pub ← nested tagConstructed1 (bitString tagBitString)
        return (key, some pub)
      let pub ← bitString tagContext1
      return (key, some pub)
    return (key, none)

def bitLength (n : Nat) : Nat := if n = 0 then 0 else Nat.log2 n + 1

structure RsaParts where
  n : Nat
  e : Nat
  d : Nat
  p : Nat
  q : Nat
  dp : Nat
  dq : Nat
  qInv : Nat

def rsaParts : Reader RsaParts :=
  nested tagSequence do
    if (← natural) ≠ 0 then failure
    let n ← natural
    let e ← natural
    let d ← natural
    let p ← natural
    let q ← natural
    let dp ← natural
    let dq ← natural
    let qInv ← natural
    return { n, e, d, p, q, dp, dq, qInv }

/-- The modulus has 2048 to 4096 bits, of which a last byte may be short, and is the product of two
primes of half its length, a multiple of 512 bits. The public exponent is odd and has 17 to 33 bits;
the private one is odd and longer than a prime. Its remainders are odd and below their primes, and
the coefficient inverts the second prime modulo the first. Primality itself is not tested. -/
def RsaParts.consistent (k : RsaParts) : Bool :=
  let bits := bitLength k.n
  let half := (bits + 1) / 2
  k.n % 2 = 1 && 2048 ≤ (bits + 7) / 8 * 8 && bits ≤ 4096 && half % 512 = 0 &&
  k.e % 2 = 1 && 65537 ≤ k.e && k.e < 1 <<< 33 &&
  k.p % 2 = 1 && bitLength k.p = half &&
  k.q % 2 = 1 && bitLength k.q = half &&
  k.p * k.q % k.n = 0 &&
  k.d % 2 = 1 && half < bitLength k.d && k.d < k.n &&
  k.dp % 2 = 1 && k.dp < k.p &&
  k.dq % 2 = 1 && k.dq < k.q &&
  k.qInv < k.p && k.qInv * k.q % k.p = 1

def isRsa (format : KeyFormat) (der : Bytes) : Bool :=
  let parts := match format with
    | .pkcs1 => readAll rsaParts der
    | .pkcs8 => do
      let (key, _) ← readAll (wrapped rsaId false) der
      readAll rsaParts key
    | .sec1 => none
  parts.any RsaParts.consistent

/-- Reads a private number with its public point, which must be there. -/
def curveParts (curveOid : Bytes) : Reader (Bytes × Bytes) :=
  nested tagSequence do
    if (← natural) ≠ 1 then failure
    let key ← element tagOctetString
    if ← peek tagConstructed0 then
      if (← element tagConstructed0) ≠ curveOid then failure
    let pub ← nested tagConstructed1 (bitString tagBitString)
    return (key, pub)

/-- A private number of full width between 1 and the order, and the uncompressed point it leads
to. -/
def curveConsistent (c : Curve) (key pub : Bytes) : Bool :=
  let k := ofBytes key
  key.length = c.width && 0 < k && k < c.order &&
    let (x, y) := c.publicPoint k
    pub = 4 :: (Sha512.bigEndian c.width x ++ Sha512.bigEndian c.width y)

def isOnCurve (c : Curve) (oid : Bytes) (format : KeyFormat) (der : Bytes) : Bool :=
  let parts := match format with
    | .pkcs1 => none
    | .sec1 => readAll (curveParts oid) der
    | .pkcs8 => do
      let (key, _) ← readAll (wrapped (curveKeyOid ++ oid) false) der
      readAll (curveParts oid) key
  parts.any fun (key, pub) => curveConsistent c key pub

def isEd25519 (format : KeyFormat) (der : Bytes) : Bool :=
  match format with
  | .pkcs8 =>
    let parts : Option (Bytes × Option Bytes) := do
      let (key, pub) ← readAll (wrapped ed25519Id true) der
      let seed ← readAll (element tagOctetString) key
      some (seed, pub)
    parts.any fun (seed, pub) =>
      seed.length = 32 && pub.all fun p => p = Edwards.publicKey seed
  | _ => false

/-- The kind of signatures that a key can make, if it can make any. -/
def algorithm? (format : KeyFormat) (der : Bytes) : Option SignatureAlgorithm :=
  if isRsa format der then some .rsa
  else if isOnCurve Curve.p256 p256Oid format der || isOnCurve Curve.p384 p384Oid format der then
    some .ecdsa
  else if isEd25519 format der then some .ed25519
  else none

end PrivateKey

end IngressProxy

import IngressProxy.Crypto.PrivateKey
import IngressProxy.Pem
import IngressProxy.Text.Quoted

namespace IngressProxy

/-- A certificate chain with the key that signs for it, and the name of the secret it is from. Only
the key is checked: the certificates of the chain are not looked at. -/
structure Certificate where
  name : String
  chain : List Bytes
  format : KeyFormat
  key : Bytes
  algorithm : SignatureAlgorithm
  deriving DecidableEq, Repr

inductive CertificateFault where
  | chain (cause : Pem.Fault)
  | noCertificates
  | privateKey (cause : Pem.Fault)
  | noPrivateKey
  | unsupportedKey
  deriving DecidableEq, Repr

def CertificateFault.message : CertificateFault → String
  | .chain _ => "invalid certificate chain"
  | .noCertificates => "no certificates found"
  | .privateKey _ => "invalid private key"
  | .noPrivateKey => "no private key found"
  | .unsupportedKey => "unsupported private key"

namespace Certificate

/-- The certificates of a text, which has to be free of faults up to its end. -/
def chainOfPem (pem : Bytes) : Except CertificateFault (List Bytes) :=
  let contents := Pem.read pem
  match contents.fault with
  | some f => .error (.chain f)
  | none =>
    let chain := contents.sections.filterMap fun s =>
      if s.kind = .certificate then some s.contents else none
    if chain.isEmpty then .error .noCertificates else .ok chain

/-- The format of the key in a section that holds one. -/
def keyFormat? : Pem.Kind → Option KeyFormat
  | .rsaPrivateKey => some .pkcs1
  | .privateKey => some .pkcs8
  | .ecPrivateKey => some .sec1
  | _ => none

/-- The first private key of a text; what follows it is not looked at. -/
def keyOfPem (pem : Bytes) : Except CertificateFault (KeyFormat × Bytes) :=
  let contents := Pem.read pem
  let keys := contents.sections.filterMap fun s => (keyFormat? s.kind).map (·, s.contents)
  match keys, contents.fault with
  | key :: _, _ => .ok key
  | [], some f => .error (.privateKey f)
  | [], none => .error .noPrivateKey

/-- Reads a chain and a key; of two faults that of the chain counts. -/
def ofPem (name : String) (chainPem keyPem : Bytes) : Except CertificateFault Certificate := do
  let chain ← chainOfPem chainPem
  let (format, key) ← keyOfPem keyPem
  match PrivateKey.algorithm? format key with
  | some algorithm => .ok { name, chain, format, key, algorithm }
  | none => .error .unsupportedKey

/-- A summary for logs, which does not show the key. -/
def summary (c : Certificate) : String :=
  "Certificate \x7b name: " ++ Quoted.encode c.name ++ ", chain_len: " ++
    toString c.chain.length ++ " \x7d"

end Certificate

end IngressProxy

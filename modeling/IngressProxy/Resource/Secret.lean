import IngressProxy.Resource.Reference
import IngressProxy.Text.Base64

namespace IngressProxy

/-- A secret: named byte strings, and what they are for. Only the key pair of a TLS secret matters
here. -/
structure Secret where
  metadata : Metadata := {}
  type : Option String := none
  data : List (String × Bytes) := []
  deriving DecidableEq, Repr, Inhabited

instance : Located Secret := ⟨Secret.metadata⟩

namespace Secret

/-- The type of secrets that hold key pairs. -/
def tlsType : String := "kubernetes.io/tls"

/-- The name of the certificate chain in a secret's data. -/
def certKey : String := "tls.crt"

/-- The name of the private key in a secret's data. -/
def privateKeyKey : String := "tls.key"

/-- The certificate chain and the private key, if the secret holds both. -/
def keyPair? (s : Secret) : Option (Bytes × Bytes) := do
  let cert ← s.data.lookup certKey
  let key ← s.data.lookup privateKeyKey
  some (cert, key)

end Secret

namespace Resource

/-- Bytes are written in canonical base64. -/
def bytes : Reader Bytes := Reader.orElse [] fun v => do
  Base64.decodeCanonical? (Utf8.encode (← Reader.text v))

def secret : Reader Secret := fun v => do
  let fields ← Reader.object v
  checkKind fields "v1" "Secret"
  let data ← field fields "data" (Reader.orElse [] (Reader.map bytes))
  let _ ← field fields "immutable" (Reader.optional Reader.flag)
  let metadata ← field fields "metadata" metadata
  let _ ← field fields "stringData" (Reader.optional (Reader.map Reader.text))
  let type ← field fields "type" (Reader.optional Reader.text)
  some { metadata, type, data }

end Resource

end IngressProxy

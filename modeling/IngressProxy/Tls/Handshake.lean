import IngressProxy.Routing.Table
import IngressProxy.Tls.ServerName

namespace IngressProxy

/-- What a client says at first: the name of the server, and the protocols that it can speak, in its
order of preference. -/
structure ClientHello where
  serverName : Option String := none
  protocols : List String := []
  deriving DecidableEq, Repr

/-- What client and server agree on. -/
structure Handshake where
  certificate : Certificate
  protocol : Option String

namespace Handshake

/-- The protocols of the server, the preferred one first. -/
def protocols : List String := ["h2", "http/1.1"]

/-- The certificate that is presented to a client: that of the name it asked for. There is no other
to fall back on. -/
def certificate? (t : RoutingTable) (hello : ClientHello) : Option Certificate :=
  hello.serverName.bind fun name =>
    match t.certificate name with
    | .ok c => some c
    | .error _ => none

/-- The protocol that is agreed on: none if the client offers none, and else the first of the server
that the client offers. It is a fault to have none in common. -/
def protocol? (hello : ClientHello) : Option (Option String) :=
  if hello.protocols.isEmpty then some none
  else (protocols.find? (· ∈ hello.protocols)).map some

/-- Answers a client, with a table that is looked at once. -/
def accept? (t : RoutingTable) (hello : ClientHello) : Option Handshake := do
  let certificate ← certificate? t hello
  let protocol ← protocol? hello
  some { certificate, protocol }

/-- The size that no record reaches. -/
def maxRecordSize : Nat := 18432

/-- Whether what a client has sent so far may be the front of a record: one of the known types, then
the version, then the size. A handshake goes on only with a whole record. -/
def awaitsMore : Bytes → Bool
  | [] => true
  | type :: rest =>
    20 ≤ type && type ≤ 24 &&
      match rest with
      | [] | [_] => true
      | major :: _ :: rest =>
        major = 3 &&
          match rest with
          | high :: low :: payload =>
            let size := high.toNat * 256 + low.toNat
            size < maxRecordSize && payload.length < size
          | _ => true

/-- The hello of a client that calls a server by a name. -/
def hello (name : ServerName) (protocols : List String) : ClientHello where
  serverName := name.sent?
  protocols

end Handshake

end IngressProxy

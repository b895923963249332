import IngressProxy.Http.Outbound
import IngressProxy.Net.Ip

namespace IngressProxy

open Http

/-- What a backend sends in answer to one request, and what it does then: it may close the connection,
or send back whatever arrives. -/
structure ScriptedReply where
  raw : Bytes
  closes : Bool := false
  echoes : Bool := false
  deriving DecidableEq, Repr

/-- A backend, which listens at a port of its own: it refuses connections, or answers one request
after the other with its replies, whatever connections they come on, and repeats the last. -/
inductive Script where
  | refusing
  | answering (replies : List ScriptedReply)
  deriving DecidableEq, Repr

structure Delivery where
  backend : Nat
  request : Outbound
  deriving DecidableEq, Repr

/-- What comes of a request to a backend: nothing that can be used, nothing so far, or a response with
what follows it on the connection. -/
inductive Reaction where
  | failed
  | waiting
  | response (r : Response) (following : Bytes) (echoes : Bool)

/-- A network: whether connections can be made, the backends, the programs that listen at further
ports, and the requests that backends have received, the newest last. -/
structure Network where
  up : Bool := false
  scripts : List Script := []
  programs : List (UInt16 × (Request → Response)) := []
  deliveries : List Delivery := []

namespace Network

/-- The address at which backends listen. -/
def address : IpAddress := .v4 127 0 0 1

def firstPort : Nat := 40000

def port (backend : Nat) : UInt16 := UInt16.ofNat (firstPort + backend)

/-- Address and port of a backend, as they are written. -/
def backendAddress (backend : Nat) : String :=
  ({ ip := address, port := port backend } : SocketAddress).render

/-- The number of requests that a backend has received. -/
def received (n : Network) (backend : Nat) : Nat :=
  n.deliveries.countP (·.backend = backend)

/-- The loopback port that a request is sent to. -/
def port? (r : Request) : Option UInt16 := do
  let a ← (r.uri.authority).bind fun a => SocketAddress.parse? a.text
  if a.ip.isLoopback then some a.port else none

/-- The reply of a script to a request, given how many came before. -/
def reply? (replies : List ScriptedReply) (n : Nat) : Option ScriptedReply :=
  replies[n]? <|> replies.getLast?

def answerOf (n : Network) (backend : Nat) (method : String) (replies : List ScriptedReply) :
    Reaction :=
  match reply? replies (n.received backend) with
  | none => .waiting
  | some reply =>
    match Answer.ofBytes method reply.closes reply.raw with
    | .waiting => .waiting
    | .failed => .failed
    | .response r following => .response r following reply.echoes

/-- Sends a request to a backend that takes it. -/
def deliver (n : Network) (backend : Nat) (replies : List ScriptedReply) (r : Request) :
    Network × Reaction :=
  match r.body.ending, Outbound.ofRequest? r with
  | .pending, _ => (n, .waiting)
  | .complete, some request =>
    ({ n with deliveries := n.deliveries ++ [{ backend, request }] },
      n.answerOf backend r.method replies)
  | _, _ => (n, .failed)

def send (n : Network) (r : Request) : Network × Reaction :=
  match n.up, port? r with
  | true, some p =>
    match n.programs.lookup p with
    | some respond => (n, .response (respond r) [] false)
    | none =>
      let backend := p.toNat - firstPort
      match if firstPort ≤ p.toNat then n.scripts[backend]? else none with
      | some (.answering replies) => n.deliver backend replies r
      | _ => (n, .failed)
  | _, _ => (n, .failed)

end Network

end IngressProxy

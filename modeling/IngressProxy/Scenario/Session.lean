import IngressProxy.Http.Http2
import IngressProxy.Http.Reply
import IngressProxy.Proxy.AcceptLoop
import IngressProxy.Proxy.Server
import IngressProxy.Scenario.Network

namespace IngressProxy

open Http

/-- A server on a network. -/
structure Scenario where
  server : Server := {}
  network : Network := {}

/-- What a client does on a connection, and how often the listener fails before it accepts it. It
reads each response before it goes on, and after a change of protocol as many bytes as it has sent.
-/
structure ClientPlan where
  requests : List Bytes := []
  messages : List Bytes := []
  drains : Bool := false
  acceptFailures : Nat := 0

/-- What follows the fields of a response: a body, or what came back of each message. -/
inductive Content where
  | body (bytes : Bytes)
  | echoed (messages : List Bytes)
  deriving DecidableEq, Repr

/-- A response as a client reads it. -/
structure Received where
  statusLine : String
  headers : Headers
  content : Content
  deriving DecidableEq, Repr

namespace Scenario

/-- Answers a request. There is no answer while a backend does not give one. -/
def handle (s : Scenario) (r : Request) (client : IpAddress) :
    Scenario × Option (Response × Bytes × Bool) :=
  let (network, reaction) := match Handler.dispatch s.server.table r client with
    | .answer _ _ => (s.network, Reaction.failed)
    | .send _ r => s.network.send r
  match reaction with
  | .waiting => ({ s with network }, none)
  | .failed =>
    let (server, response) := s.server.handle (fun _ _ => none) r client
    ({ s with server, network }, some (response, [], false))
  | .response reply following echoes =>
    let (server, response) := s.server.handle (fun _ _ => some reply) r client
    ({ s with server, network }, some (response, following, echoes))

def handleHttp2 (s : Scenario) (r : Request) (client : IpAddress) : Scenario × Option Response :=
  match Http2.received? r with
  | none => (s, none)
  | some r =>
    let (s, answer) := s.handle r client
    (s, answer.bind fun a => Http2.response? r.method a.1)

end Scenario

/-- A client's connection to a listener: who answers its requests, the responses so far, and what came
after them. -/
structure Session where
  scenario : Scenario
  answer : Scenario → Request → IpAddress → Scenario × Option (Response × Bytes × Bool) :=
    Scenario.handle
  loop : AcceptLoop
  task : Nat
  client : IpAddress
  unread : Bytes := []
  responses : List Received := []
  following : Bytes := []

namespace Scenario

/-- Opens a connection to a listener, if it accepts one. -/
def connect? (s : Scenario) (loop : AcceptLoop) (client : IpAddress) (failures : Nat) :
    Option Session :=
  let number := loop.tasks.length
  let loop := loop.run (List.replicate failures (.arrive .failure) ++ [.arrive (.connection number)])
  let accepted := loop.takeWaiting
  if number < accepted.tasks.length then
    some { scenario := s, loop := accepted, task := number, client }
  else none

end Scenario

namespace Session

def act (s : Session) (e : Connection.Event) : Session :=
  { s with loop := s.loop.step (.task s.task e) }

def isClosed (s : Session) : Bool :=
  match s.loop.tasks[s.task]? with
  | some c => c.phase = .released
  | none => true

/-- Messages that are sent over a changed protocol, and what comes back: first what the backend sends
by itself, then the messages, if they are sent back. -/
def exchange (messages : List Bytes) (stream : Bytes) (echoes : Bool) : List Bytes × Bytes :=
  match messages with
  | [] => ([], stream)
  | m :: rest =>
    let stream := if echoes then stream ++ m else stream
    let (more, left) := exchange rest (stream.drop m.length) echoes
    (stream.take m.length :: more, left)

/-- Whether a request and its response join the connections of client and backend. -/
def joins (inbound : Inbound) : Bool :=
  inbound.mayUpgrade && (Forward.upgradeProtocol? inbound.request.headers).isSome

/-- Sends a response to the client, which has messages to send if the protocol changes. -/
def respond (s : Session) (messages : List Bytes) (inbound : Inbound) (response : Response)
    (following : Bytes) (echoes : Bool) : Session :=
  let reply := Reply.ofResponse inbound response
  let (content, left) :=
    if response.status = Status.switchingProtocols then
      let joined := joins inbound
      let (echoed, left) :=
        exchange messages (if joined then following else []) (joined && echoes)
      (Content.echoed echoed, left)
    else (.body reply.body, [])
  let s := s.act (.server (.respond !reply.closes))
  { s with
    responses := s.responses ++ [⟨reply.statusLine, reply.headers, content⟩]
    following := left }

/-- Takes what the client sends: as soon as it is a request, it is answered. -/
def receive (s : Session) (messages : List Bytes) (bs : Bytes) : Session :=
  if s.isClosed then s
  else
    let s := if bs.isEmpty then s else s.act (.client .receive)
    let s := { s with unread := s.unread ++ bs }
    match Inbound.read s.unread with
    | .more | .fault _ => s
    | .done (.error status) _ =>
      let reply := Reply.refusal status
      let s := (s.act (.server .beginRequest)).act (.server (.respond false))
      { s with
        unread := []
        responses := s.responses ++ [⟨reply.statusLine, reply.headers, .body reply.body⟩] }
    | .done (.ok (inbound, rest)) _ =>
      let s := ({ s with unread := rest } : Session).act (.server .beginRequest)
      let (scenario, answered) := s.answer s.scenario inbound.request s.client
      let s := { s with scenario }
      match answered with
      | none => s
      | some (response, following, echoes) => s.respond messages inbound response following echoes

def hangUp (s : Session) : Session := s.act (.client .hangUp)

def run (s : Session) (plan : ClientPlan) : Session :=
  let s := plan.requests.foldl (fun s bs => s.receive plan.messages bs) s
  if plan.drains then { s with loop := (s.loop.step .drain).settle } else s

end Session

end IngressProxy

import IngressProxy.Proxy.Server
import IngressProxy.Tls.Handshake

namespace IngressProxy

inductive UpdateStage where
  | started
  | built (table : RoutingTable)
  | installed
  | counted
  | returned

structure UpdateTask where
  payload : Payload
  stage : UpdateStage := .started

/-- A request with the table that it is answered from, and its answer once there is one. -/
structure RequestTask where
  request : Http.Request
  client : IpAddress
  table : RoutingTable
  answer : Option (Outcome × Http.Response) := none

/-- A handshake with the table that it is answered from. Once it was answered, the answer is the
certificate to present, or that there is none. -/
structure HandshakeTask where
  hello : ClientHello
  table : RoutingTable
  answer : Option (Option Certificate) := none

/-- What a table was asked, and its answer. -/
inductive Lookup where
  | backend (host path : String) (answer : Except NotFound BackendUrl)
  | certificate (name : String) (answer : Except NotFound Certificate)

/-- A reader with the table that it keeps, and what it has asked that, the newest last. -/
structure ReaderTask where
  table : RoutingTable
  lookups : List Lookup := []

/-- A server that is used by many tasks at once, each kind in the order in which they began. -/
structure ServerTasks where
  server : Server := {}
  updates : List UpdateTask := []
  requests : List RequestTask := []
  handshakes : List HandshakeTask := []
  readers : List ReaderTask := []

namespace ServerTasks

/-- What can happen: a task begins, or goes on. Requests, handshakes and readers begin by looking at the
active table. A request goes on with what the backend did, which does not count where none was asked. -/
inductive Event where
  | update (p : Payload)
  | advanceUpdate (i : Nat)
  | request (r : Http.Request) (client : IpAddress)
  | conclude (i : Nat) (reply : Option Http.Response)
  | handshake (hello : ClientHello)
  | present (i : Nat)
  | read
  | findBackend (i : Nat) (host path : String)
  | findCertificate (i : Nat) (name : String)

def advance (s : ServerTasks) (i : Nat) (task : UpdateTask) : ServerTasks :=
  let goOn (s : ServerTasks) (stage : UpdateStage) : ServerTasks :=
    { s with updates := s.updates.set i { task with stage } }
  match task.stage with
  | .started => goOn s (.built (RoutingTable.ofPayload task.payload))
  | .built table => goOn { s with server := s.server.install table } .installed
  | .installed => goOn { s with server := s.server.countUpdate } .counted
  | .counted => goOn { s with server := s.server.setReady } .returned
  | .returned => s

/-- The answer to a request from the table that it was given. -/
def answer (task : RequestTask) (reply : Option Http.Response) : Outcome × Http.Response :=
  match Handler.dispatch task.table task.request task.client with
  | .answer outcome response => (outcome, response)
  | .send _ _ => Handler.conclude reply

def look? (s : ServerTasks) (i : Nat) (find : RoutingTable → Lookup) : Option ServerTasks :=
  s.readers[i]?.map fun task =>
    { s with readers := s.readers.set i { task with lookups := task.lookups ++ [find task.table] } }

def step? (s : ServerTasks) : Event → Option ServerTasks
  | .update payload => some { s with updates := s.updates ++ [{ payload }] }
  | .advanceUpdate i => s.updates[i]?.map (s.advance i)
  | .request request client =>
    some { s with requests := s.requests ++ [{ request, client, table := s.server.table }] }
  | .conclude i reply =>
    s.requests[i]?.bind fun task =>
      match task.answer with
      | some _ => none
      | none =>
        let a := answer task reply
        some { s with
          server := s.server.record a.1
          requests := s.requests.set i { task with answer := some a } }
  | .handshake hello =>
    some { s with handshakes := s.handshakes ++ [{ hello, table := s.server.table }] }
  | .present i =>
    s.handshakes[i]?.bind fun task =>
      match task.answer with
      | some _ => none
      | none =>
        let certificate := Handshake.certificate? task.table task.hello
        some { s with handshakes := s.handshakes.set i { task with answer := some certificate } }
  | .read => some { s with readers := s.readers ++ [{ table := s.server.table }] }
  | .findBackend i host path => s.look? i fun t => .backend host path (t.backend host path)
  | .findCertificate i name => s.look? i fun t => .certificate name (t.certificate name)

end ServerTasks

end IngressProxy

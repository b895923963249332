import IngressProxy.Proxy.Handler

namespace IngressProxy

structure Counts where
  proxied : Nat := 0
  notFound : Nat := 0
  badGateway : Nat := 0
  updates : Nat := 0
  deriving DecidableEq, Repr, Inhabited

namespace Counts

def record (c : Counts) : Outcome → Counts
  | .proxied => { c with proxied := c.proxied + 1 }
  | .notFound => { c with notFound := c.notFound + 1 }
  | .badGateway => { c with badGateway := c.badGateway + 1 }

/-- The number of requests that have ended. -/
def requests (c : Counts) : Nat := c.proxied + c.notFound + c.badGateway

end Counts

/-- The state of a server: the active routing table, whether one has been installed, and the counts
of what has been done. A table is replaced as a whole. -/
structure Server where
  table : RoutingTable := {}
  ready : Bool := false
  counts : Counts := {}

namespace Server

/-- The addresses on which a server listens, and how long it tries to reach a backend. -/
structure Config where
  host : IpAddress := .v4 0 0 0 0
  port : UInt16 := 80
  tlsPort : UInt16 := 443
  backendConnectTimeoutMs : Nat := 10000
  deriving DecidableEq, Repr

/-- Makes a table the active one. -/
def install (s : Server) (t : RoutingTable) : Server := { s with table := t }

def countUpdate (s : Server) : Server := { s with counts.updates := s.counts.updates + 1 }

/-- Opens the gate behind which the listeners wait. -/
def setReady (s : Server) : Server := { s with ready := true }

/-- Replaces the routing table by that of a payload: it is compiled, made active, counted, and then
the server is ready. -/
def update (s : Server) (p : Payload) : Server :=
  ((s.install (RoutingTable.ofPayload p)).countUpdate).setReady

def record (s : Server) (o : Outcome) : Server := { s with counts := s.counts.record o }

/-- Answers a request from the active table and counts it. -/
def handle (s : Server) (backend : BackendUrl → Http.Request → Option Http.Response)
    (r : Http.Request) (client : IpAddress) : Server × Http.Response :=
  let (outcome, response) := Handler.handle s.table backend r client
  (s.record outcome, response)

end Server

end IngressProxy

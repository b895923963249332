import IngressProxy.Http.Framing

namespace IngressProxy.Http

/-- A request before its body, and what its head says about the connection. -/
structure Inbound where
  request : Request
  framing : Framing
  keepAlive : Bool
  mayUpgrade : Bool
  deriving DecidableEq, Repr

/-- What is gathered from the fields of a request, one by one. -/
structure FieldScan where
  framing : Framing := .absent
  size : Option Nat := none
  coded : Bool := false
  keepAlive : Bool
  mayUpgrade : Bool

namespace FieldScan

/-- Takes in a transfer coding. The last one has to be that of chunks. -/
def transferEncoding (s : FieldScan) (version : Version) (v : HeaderValue) : Option FieldScan :=
  if version = .http10 then none
  else some { s with coded := true, framing := if endsInChunked v then .chunked else .untilClose }

/-- Takes in a size. All sizes agree; a coding before it overrules it. -/
def contentLength (s : FieldScan) (v : HeaderValue) : Option FieldScan :=
  if s.coded then some s
  else
    match v.readable?.bind readSize?, s.size with
    | none, _ => none
    | some n, some m => if n = m then some s else none
    | some n, none =>
      if n ≤ maxBodySize then some { s with size := some n, framing := .ofSize n } else none

def connection (s : FieldScan) (v : HeaderValue) : FieldScan :=
  { s with keepAlive := if s.keepAlive then !hasToken "close" v else hasToken "keep-alive" v }

def field (version : Version) (s : FieldScan) (e : HeaderName × HeaderValue) : Option FieldScan :=
  if e.1 = .transferEncoding then s.transferEncoding version e.2
  else if e.1 = .contentLength then s.contentLength e.2
  else if e.1 = .connection then some (s.connection e.2)
  else if e.1 = .upgrade then some { s with mayUpgrade := version = .http11 }
  else some s

end FieldScan

namespace Inbound

/-- The request of a head, or the status with which it is refused. -/
def ofHead (head : RequestHead) : Except Status Inbound :=
  if head.target.utf8ByteSize > Uri.maxLength then .error Status.uriTooLong
  else
    match Uri.parse head.target with
    | .error _ => .error Status.badRequest
    | .ok uri =>
      let start : FieldScan := {
        keepAlive := head.version = .http11
        mayUpgrade := head.method = "CONNECT" }
      match head.headers.entries.foldlM (FieldScan.field head.version) start with
      | none => .error Status.badRequest
      | some scan =>
        if scan.framing = .untilClose then .error Status.badRequest
        else
          .ok {
            request := {
              method := head.method
              uri
              version := head.version
              headers := head.headers }
            framing := scan.framing
            keepAlive := scan.keepAlive
            mayUpgrade := scan.mayUpgrade }

/-- Reads a request from the front of some bytes: nothing so far, or a status with which the client
is turned away, or a request with its body and what follows. Where the body is broken, it cannot be
told where the next request begins, and the connection is not kept. -/
def read (bs : Bytes) : Reading (Except Status (Inbound × Bytes)) :=
  match RequestHead.read bs with
  | .more => .more
  | .fault .tooManyFields => .done (.error Status.headersTooLarge) []
  | .fault _ => .done (.error Status.badRequest) []
  | .done head rest =>
    match ofHead head with
    | .error status => .done (.error status) []
    | .ok inbound =>
      let (body, rest) := inbound.framing.read false rest
      .done (.ok ({ inbound with
        request := { inbound.request with body }
        keepAlive := inbound.keepAlive && body.ending ≠ .broken }, rest)) []

end Inbound

end IngressProxy.Http

import IngressProxy.Http.Framing

namespace IngressProxy.Http

/-- A request as it is sent: its first line, its fields, and the body that the fields announce. -/
structure Outbound where
  line : String
  headers : Headers
  body : Bytes
  deriving DecidableEq, Repr

namespace Outbound

/-- The target of a request: the address for one that asks for a tunnel, else path and query. -/
def target (r : Request) : String :=
  if r.method = "CONNECT" then (r.uri.authority.map Authority.text).getD ""
  else r.uri.target.render

/-- The fields of a request that has a body, with the body as it is sent. A size that was given is
kept, and the body cut to it; it is a fault to announce more than there is. Otherwise the size is
announced if it is known, and else the body is sent in chunks, which some methods do not do. -/
def frame? (r : Request) : Option (Headers × Bytes) :=
  match r.body.size, announcedSize? r.headers with
  | .absent, _ => some (r.headers.erase .transferEncoding, [])
  | _, some n => if n ≤ r.body.bytes.length then some (r.headers, r.body.bytes.take n) else none
  | .known n, none =>
    some (r.headers.set .contentLength (.lit (toString n)), r.body.bytes)
  | .unknown, none =>
    if ["GET", "HEAD", "CONNECT"].contains r.method then some (r.headers, [])
    else some (r.headers.set .transferEncoding (.lit "chunked"), r.body.bytes)

/-- The request as it is sent to an address. A request without a host names the address. -/
def ofRequest? (r : Request) : Option Outbound := do
  let (headers, body) ← frame? r
  let address := (r.uri.authority.map Authority.text).getD ""
  some {
    line := r.method ++ " " ++ target r ++ " HTTP/1.1"
    headers := if headers.contains .host then headers else headers.set .host (.lit address)
    body }

end Outbound

/-- What a client makes of the bytes that a backend sends in answer to a request. -/
inductive Answer where
  | waiting
  | failed
  | response (r : Response) (rest : Bytes)
  deriving DecidableEq, Repr

namespace Answer

/-- How the body of a response ends, if it may be there and the head is sound. -/
def framing? (method : String) (head : ResponseHead) : Option Framing :=
  let status := head.status
  if status.isInformational || status = Status.noContent || status = Status.notModified then
    some .absent
  else if method = "HEAD" || (method = "CONNECT" && status.isSuccess) then some .absent
  else
    match (head.headers.values .transferEncoding).getLast? with
    | some v =>
      if head.version = .http10 then none
      else some (if endsInChunked v then .chunked else .untilClose)
    | none =>
      if head.headers.contains .contentLength then
        match announcedSize? head.headers with
        | some n => if n ≤ maxBodySize then some (.ofSize n) else none
        | none => none
      else some .untilClose

/-- Reads an answer. Interim responses are passed over. `closed` tells whether the backend has closed
the connection. -/
def read (method : String) (closed : Bool) : Nat → Bytes → Answer
  | 0, _ => .failed
  | fuel + 1, bs =>
    match ResponseHead.read bs with
    | .more => if closed then .failed else .waiting
    | .fault _ => .failed
    | .done head rest =>
      if !head.status.isValid then .failed
      else if head.status.isInformational && head.status ≠ Status.switchingProtocols then
        read method closed fuel rest
      else
        match framing? method head with
        | none => .failed
        | some framing =>
          let (body, rest) := framing.read closed rest
          .response {
            status := head.status
            reason := some head.reason
            version := head.version
            headers := head.headers
            body } rest

def ofBytes (method : String) (closed : Bool) (bs : Bytes) : Answer :=
  read method closed (bs.length + 1) bs

end Answer

end IngressProxy.Http

import IngressProxy.Http.Inbound

namespace IngressProxy.Http

/-- A response as it is sent, and whether the connection ends after it. -/
structure Reply where
  statusLine : String
  headers : Headers
  body : Bytes
  closes : Bool
  deriving DecidableEq, Repr

namespace Reply

/-- Whether a response may have a body, given the method that was asked with. -/
def mayHaveBody (method : String) (status : Status) : Bool :=
  !(method = "HEAD" || (method = "CONNECT" && status.isSuccess) || status.isInformational ||
    status = Status.noContent || status = Status.notModified)

def mayHaveSize (method : String) (status : Status) : Bool :=
  !((method = "CONNECT" && status.isSuccess) || status.isInformational ||
    status = Status.noContent || status = Status.notModified)

/-- The fields as they are sent, with the way in which the body ends. -/
structure Frame where
  headers : Headers
  framing : Framing

/-- The way in which a body is marked off if no field of the response says it. -/
def announce (method : String) (version : Version) (r : Response) (h : Headers) : Frame :=
  match r.body.size with
  | .unknown =>
    if version = .http10 || !mayHaveBody method r.status then ⟨h, .untilClose⟩
    else ⟨h.set .transferEncoding (.lit "chunked"), .chunked⟩
  | .absent =>
    if mayHaveSize method r.status && method ≠ "HEAD" then
      ⟨h.set .contentLength (.lit "0"), .absent⟩
    else ⟨h, .absent⟩
  | .known n =>
    if mayHaveSize method r.status then ⟨h.set .contentLength (.lit (toString n)), .ofSize n⟩
    else ⟨h, .absent⟩

/-- Marks off the body. A transfer coding that the response has is kept and ends in chunks; a size
that it has is kept where there is a body of that size, or where the method asks for none. -/
def frame (method : String) (version : Version) (r : Response) (h : Headers) : Frame :=
  match h.first? .transferEncoding with
  | some v =>
    if version = .http10 || !mayHaveBody method r.status then
      announce method version r (h.erase .transferEncoding)
    else if endsInChunked v then ⟨h, .chunked⟩
    else ⟨h.set .transferEncoding ⟨v.bytes ++ Utf8.encode ", chunked"⟩, .chunked⟩
  | none =>
    match h.first? .contentLength with
    | none => announce method version r h
    | some v =>
      let h := h.set .contentLength v
      match r.body.size with
      | .known n => ⟨h, .ofSize n⟩
      | .unknown =>
        match announcedSize? h with
        | some n => ⟨h, .ofSize n⟩
        | none => announce method version r (h.erase .contentLength)
      | .absent =>
        if method = "HEAD" then ⟨h, .absent⟩
        else announce method version r (h.erase .contentLength)

/-- The version and the connection options with which a response goes to a client that speaks a
version, and whether the connection is kept. A client of the older version keeps a connection only
where it asks for that and is told so. -/
def connection (clientVersion : Version) (keepAlive : Bool) (r : Response) :
    Version × Headers × Bool :=
  match clientVersion with
  | .http10 =>
    let keeps := match r.headers.first? .connection with
      | some v => hasToken "keep-alive" v
      | none => false
    if keeps then (.http10, r.headers, keepAlive)
    else
      match r.version with
      | .http10 => (.http10, r.headers, false)
      | _ =>
        if keepAlive then (.http10, r.headers.set .connection (.lit "keep-alive"), true)
        else (.http10, r.headers, false)
  | _ =>
    (r.version, if keepAlive then r.headers else r.headers.set .connection (.lit "close"), keepAlive)

def firstLine (version : Version) (r : Response) : String :=
  (if version = .http10 then "HTTP/1.0 " else "HTTP/1.1 ") ++ toString r.status ++ " " ++
    r.reason.getD r.status.reason

/-- Whether the connection speaks no more HTTP after a response. -/
def leavesHttp (method : String) (status : Status) : Bool :=
  status = Status.switchingProtocols || (method = "CONNECT" && status.isSuccess)

/-- The response to a request. The connection ends with it if it is not kept, or if the body lasts
until then or is broken off. -/
def ofResponse (inbound : Inbound) (r : Response) : Reply :=
  let method := inbound.request.method
  let (version, headers, keeps) := connection inbound.request.version inbound.keepAlive r
  let f := frame method version r headers
  let bytes := if mayHaveBody method r.status then r.body.bytes else []
  let asksToClose := (f.headers.values .connection).any (hasToken "close")
  { statusLine := firstLine version r
    headers := f.headers
    body := bytes
    closes := !keeps || asksToClose || leavesHttp method r.status || f.framing = .untilClose ||
      r.body.ending = .broken }

/-- The response with which a client is turned away that sent no request. -/
def refusal (status : Status) : Reply where
  statusLine := firstLine .http11 { status }
  headers := ⟨[(.connection, .lit "close"), (.contentLength, .lit "0")]⟩
  body := []
  closes := true

end Reply

end IngressProxy.Http

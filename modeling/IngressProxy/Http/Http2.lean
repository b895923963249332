import IngressProxy.Http.Framing

namespace IngressProxy.Http.Http2

/-- Names that concern a single connection. -/
def connectionNames : List HeaderName :=
  [.keepAlive, .proxyConnection, .transferEncoding, .upgrade]

/-- The names in the first list of connection options. -/
def listedNames (h : Headers) : List HeaderName :=
  match (h.first? .connection).bind HeaderValue.readable? with
  | some s => (CommaList.items s).filterMap HeaderName.ofText?
  | none => []

/-- The fields that do not concern a single connection. A request may say that it takes trailers. -/
def strip (isRequest : Bool) (h : Headers) : Headers :=
  let h := h.eraseAll connectionNames
  let h := if isRequest && h.first? .te = some (.lit "trailers") then h else h.erase .te
  (h.erase .connection).eraseAll (listedNames h)

/-- Announces a size, unless one is announced already. -/
def announce (n : Nat) (h : Headers) : Headers :=
  if h.contains .contentLength then h else h.set .contentLength (.lit (toString n))

/-- The methods with which a missing body means nothing in particular. -/
def mayOmitBody (method : String) : Bool := ["GET", "HEAD", "DELETE", "CONNECT"].contains method

/-- Whether the announced size, if there is one, is that of the body. -/
def sizeAgrees (h : Headers) (body : Bytes) : Bool :=
  match h.first? .contentLength with
  | none => true
  | some v => valueSize? v = some body.length

/-- The request that a server receives. A request without a scheme and an authority cannot be sent,
and one that announces another size than it has is refused. -/
def received? (r : Request) : Option Request := do
  let scheme ← r.uri.scheme
  let authority ← r.uri.authority
  let n := r.body.bytes.length
  let h := strip true r.headers
  let h := if n ≠ 0 || !mayOmitBody r.method then announce n h else h
  if sizeAgrees h r.body.bytes then
    some {
      method := r.method
      uri := { scheme, authority, target := r.uri.target }
      version := .http2
      headers := h
      body := Body.ofBytes r.body.bytes }
  else none

/-- The response that a client receives. There is no change of protocol, and a body is not expected
in answer to `HEAD`. -/
def response? (method : String) (r : Response) : Option Response :=
  if r.status.isInformational then none
  else
    let h := strip false r.headers
    let h := match r.body.size with
      | .known n => announce n h
      | _ => h
    let body :=
      if method = "HEAD" && r.body.size ≠ .absent then { r.body with bytes := [], ending := .broken }
      else r.body
    some { r with version := .http2, headers := h, body }

end IngressProxy.Http.Http2

import IngressProxy.Backend.Url
import IngressProxy.Http.Message
import IngressProxy.Net.Ip

namespace IngressProxy.Forward

open Http

/-- The names that always concern a single connection. -/
def hopByHop : List HeaderName :=
  [.connection, .keepAlive, .proxyAuthenticate, .proxyAuthorization, .te, .trailer,
    .transferEncoding, .upgrade]

/-- The names that the sender lists in its connection options. -/
def listedNames (h : Headers) : List HeaderName := h.connectionTokens.filterMap HeaderName.ofText?

/-- The fields that do not concern a single connection. -/
def stripHopByHop (h : Headers) : Headers := h.eraseAll (listedNames h ++ hopByHop)

/-- The protocol to which the client wants to change: the first that it names, if its connection
options say that it wants to. -/
def upgradeProtocol? (h : Headers) : Option HeaderValue :=
  if h.connectionTokens.any (equalsIgnoringCase · "upgrade") then h.first? .upgrade else none

/-- Appends an address to the readable ones that a request has come through, in one value. -/
def appendForwardedFor (h : Headers) (client : IpAddress) : Headers :=
  let chain := h.readable .forwardedFor ++ [client.render]
  match HeaderValue.ofText? (", ".intercalate chain) with
  | some v => h.set .forwardedFor v
  | none => h

/-- The host that a request is for, as a backend is told: the first that it names, readable or not,
else the authority of its target. -/
def hostValue? (r : Request) : Option HeaderValue :=
  r.headers.first? .host <|> (r.uri.authority.bind fun a => HeaderValue.ofText? a.text)

/-- The fields of a request without those of its connection, with its host and the chain of
addresses. -/
def baseHeaders (r : Request) (client : IpAddress) : Headers :=
  let h := stripHopByHop r.headers
  let h := match hostValue? r with
    | some v => h.set .host v
    | none => h
  appendForwardedFor h client

/-- The fields with which a request is sent to a backend. -/
def requestHeaders (r : Request) (client : IpAddress) : Headers :=
  let h := baseHeaders r client
  match upgradeProtocol? r.headers with
  | some protocol => (h.set .connection (.lit "upgrade")).set .upgrade protocol
  | none => h

/-- The request that is sent to a backend. Its fields are those that do not concern a single
connection, with the host that the client asked for, and with the address of the client behind those
that the request has come through. A change of protocol is asked for anew. -/
def request (url : BackendUrl) (r : Request) (client : IpAddress) : Request where
  method := r.method
  uri := url.uri r.uri.target?
  version := .http11
  headers := requestHeaders r client
  body := r.body

/-- The response that the client gets. One that changes the protocol is left as it is. -/
def response (r : Response) : Response :=
  if r.status = Status.switchingProtocols then r
  else { r with headers := stripHopByHop r.headers }

end IngressProxy.Forward

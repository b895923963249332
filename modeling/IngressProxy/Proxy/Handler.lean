import IngressProxy.Proxy.Forward
import IngressProxy.Routing.Table

namespace IngressProxy

open Http

inductive Outcome where
  | proxied
  | notFound
  | badGateway
  deriving DecidableEq, Repr

namespace Handler

/-- The text of a response to a request that no rule is for. -/
def notFoundBody : String := "upstream server not found"

/-- The text of a response to a request that could not be forwarded. -/
def badGatewayBody : String := "bad gateway"

/-- A response of the proxy itself. -/
def ownResponse (status : Status) (text : String) : Response where
  status
  headers := ⟨[(.contentType, .lit "text/plain; charset=utf-8")]⟩
  body := Body.ofText text

/-- The host by which a request is routed: the first that it names, if that is readable, else the
authority of its target, else none. -/
def requestHost (r : Request) : String :=
  match (r.headers.first? .host).bind HeaderValue.readable? with
  | some host => host
  | none => (r.uri.authority.map Authority.text).getD ""

/-- What becomes of a request: it is answered at once, or sent to a backend. -/
inductive Dispatch where
  | answer (outcome : Outcome) (r : Response)
  | send (url : BackendUrl) (r : Request)

def dispatch (table : RoutingTable) (r : Request) (client : IpAddress) : Dispatch :=
  match table.backend (requestHost r) r.uri.path with
  | .ok url => .send url (Forward.request url r client)
  | .error _ => .answer .notFound (ownResponse Status.notFound notFoundBody)

/-- The answer to a request that was sent to a backend, which may have failed. -/
def conclude : Option Response → Outcome × Response
  | some r => (.proxied, Forward.response r)
  | none => (.badGateway, ownResponse Status.badGateway badGatewayBody)

/-- Answers a request, given what each backend does with a request. -/
def handle (table : RoutingTable) (backend : BackendUrl → Request → Option Response) (r : Request)
    (client : IpAddress) : Outcome × Response :=
  match dispatch table r client with
  | .answer outcome response => (outcome, response)
  | .send url request => conclude (backend url request)

end Handler

end IngressProxy

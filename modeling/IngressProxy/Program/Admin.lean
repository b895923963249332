import IngressProxy.Http.Message

namespace IngressProxy.Admin

open Http

def textResponse (s : String) : Response where
  headers := ⟨[(.contentType, .lit "text/plain"),
    (.contentLength, .lit (toString s.utf8ByteSize))]⟩
  body := Body.ofText s

def emptyResponse (status : Status) : Response where
  status
  headers := ⟨[(.contentLength, .lit "0")]⟩

/-- Answers a request, given the lines of what was counted. The program is ready before it has a
routing table. -/
def respond (metrics : List String) (r : Request) : Response :=
  let read (s : String) : Response :=
    if r.method = "GET" ∨ r.method = "HEAD" then textResponse s
    else emptyResponse Status.methodNotAllowed
  match r.uri.path with
  | "/ready" => read "ready\n"
  | "/live" => read "alive\n"
  | "/metrics" => read (String.join (metrics.map (· ++ "\n")))
  | _ => emptyResponse Status.notFound

end IngressProxy.Admin

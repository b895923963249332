import IngressProxy.Backend.Reference
import IngressProxy.Uri.Basic

namespace IngressProxy

/-- Where requests for a rule are sent: plaintext HTTP at `host:port`. An address is checked when it
is made, so that nothing which is not a host can slip into it. -/
structure BackendUrl where
  authority : Authority
  port : Port
  deriving DecidableEq

inductive BackendFault where
  | emptyHost
  | zeroPort
  | invalidAddress (address : String) (cause : UriError)
  | invalidHost (host : String)
  | unknownPort (service port : String)
  deriving DecidableEq, Repr

def BackendFault.message : BackendFault → String
  | .emptyHost => "backend host must not be empty"
  | .zeroPort => "backend port must not be zero"
  | .invalidAddress address _ => "invalid backend address " ++ address
  | .invalidHost host => "invalid backend host " ++ host
  | .unknownPort service port => "service " ++ service ++ " does not declare a port named " ++ port

namespace BackendUrl

def address (host : String) (port : UInt16) : String := host ++ ":" ++ toString port.toNat

/-- The address of a host and a port. The host must be all that the authority takes for its host. -/
def http [AuthorityGrammar] (host : String) (port : UInt16) : Except BackendFault BackendUrl :=
  if host.isEmpty then .error .emptyHost
  else if h : port = 0 then .error .zeroPort
  else
    match AuthorityGrammar.parse (address host port) with
    | .error e => .error (.invalidAddress (address host port) e)
    | .ok a =>
      if AuthorityGrammar.host a = host then .ok ⟨a, port, h⟩ else .error (.invalidHost host)

/-- The only scheme that backends are spoken to with. -/
def scheme : String := "http"

def host [AuthorityGrammar] (b : BackendUrl) : String := AuthorityGrammar.host b.authority

def render (b : BackendUrl) : String := scheme ++ "://" ++ b.authority.text

/-- The URI of a request to this address, by default for the root. -/
def uri (b : BackendUrl) (target : Option Target) : Uri where
  scheme := some scheme
  authority := some b.authority
  target := target.getD Target.root

end BackendUrl

end IngressProxy

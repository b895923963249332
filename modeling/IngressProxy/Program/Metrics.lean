import IngressProxy.Proxy.Server
import IngressProxy.Watch.Watcher

namespace IngressProxy

namespace Metrics

def line (name : String) (n : Nat) : String := name ++ " " ++ toString n

/-- The line of a way in which requests have ended, if it has occurred. -/
def outcomeLine (outcome : String) (n : Nat) : List String :=
  if n = 0 then [] else [line ("requests_total\x7boutcome=\"" ++ outcome ++ "\"\x7d") n]

end Metrics

def Counts.metrics (c : Counts) : List String :=
  Metrics.outcomeLine "bad_gateway" c.badGateway ++ Metrics.outcomeLine "not_found" c.notFound ++
    Metrics.outcomeLine "proxied" c.proxied ++ [Metrics.line "table_updates_total" c.updates]

def Watcher.metrics (w : Watcher) : List String :=
  [Metrics.line "ingresses" w.ingressCount, Metrics.line "reconciliations_total" w.reconciliations]

/-- The lines of a program with a server and a watcher. -/
def Metrics.ofProgram (c : Counts) (w : Watcher) : List String :=
  c.metrics.map ("ingress_proxy_" ++ ·) ++ w.metrics.map ("ingress_watcher_" ++ ·)

end IngressProxy

import IngressProxy.Proxy.Lifecycle
import IngressProxy.Proxy.Tasks

namespace IngressProxy

/-- A server with what its tasks do, and its life. The gate at which its listeners wait is the one
that its updates open. -/
structure RunningServer where
  tasks : ServerTasks := {}
  lifecycle : Lifecycle := {}

namespace RunningServer

/-- What can happen: a task goes on, or the life of the server does. -/
inductive Event where
  | task (e : ServerTasks.Event)
  | life (e : Lifecycle.Event)

def start (config : Server.Config) : RunningServer where
  lifecycle := { config }

/-- One event, where it is possible. The gate is opened by tasks only, once the server is ready. -/
def step? (s : RunningServer) : Event → Option RunningServer
  | .task e =>
    (s.tasks.step? e).map fun tasks =>
      { tasks
        lifecycle :=
          if tasks.server.ready then s.lifecycle.runPossible [.update] else s.lifecycle }
  | .life .update => none
  | .life e => (s.lifecycle.step? e).map fun lifecycle => { s with lifecycle }

def run? (s : RunningServer) (events : List Event) : Option RunningServer := events.foldlM step? s

end RunningServer

end IngressProxy

import IngressProxy.Program.Supervisor

namespace IngressProxy

/-- A server, its supervisor, and how many signals there were: the first one begins the shutdown, of
the gate and of both listeners alike, and a second one can cut it short. That a part has ended
becomes known to the supervisor some time later. -/
structure RunningProgram where
  lifecycle : Lifecycle := {}
  supervisor : Supervisor := {}
  signals : Nat := 0

namespace RunningProgram

/-- What can happen: the life of the server goes on, a signal comes, the end of a part becomes known,
or the supervisor sees it. -/
inductive Event where
  | life (e : Lifecycle.Event)
  | signal
  | proxyEnds
  | watcherEnds (o : WatchOutcome)
  | shutdownEnds (o : ShutdownOutcome)
  | see (p : Part)

def start (config : Server.Config) : RunningProgram where
  lifecycle := { config }

def canShutDown (s : RunningProgram) : ShutdownOutcome → Bool
  | .completed => 0 < s.signals && s.lifecycle.isDrained
  | .aborted => 1 < s.signals

def supervise? (s : RunningProgram) (e : Supervisor.Event) : Option RunningProgram :=
  (s.supervisor.step? e).map fun supervisor => { s with supervisor }

/-- One event, where it is possible. Shutdown begins with a signal only. -/
def step? (s : RunningProgram) : Event → Option RunningProgram
  | .life .drain | .life (.accept _ .drain) => none
  | .life e => (s.lifecycle.step? e).map fun lifecycle => { s with lifecycle }
  | .signal =>
    some { s with signals := s.signals + 1, lifecycle := s.lifecycle.runPossible [.drain] }
  | .proxyEnds => s.lifecycle.result.bind fun r => s.supervise? (.proxyEnds r)
  | .watcherEnds o => s.supervise? (.watcherEnds o)
  | .shutdownEnds o => if s.canShutDown o then s.supervise? (.shutdownEnds o) else none
  | .see p => s.supervise? (.see p)

def run? (s : RunningProgram) (events : List Event) : Option RunningProgram :=
  events.foldlM step? s

/-- Events in order; those that are not possible are left out. -/
def runPossible (s : RunningProgram) (events : List Event) : RunningProgram :=
  events.foldl (fun s e => (s.step? e).getD s) s

def result? (s : RunningProgram) : Option (Except ProgramFault Unit) := s.supervisor.result?

end RunningProgram

end IngressProxy

import IngressProxy.Proxy.Lifecycle
import IngressProxy.Watch.Feeds

namespace IngressProxy

/-- How the shutdown of the program went: every part has finished, or a second signal came before. -/
inductive ShutdownOutcome where
  | completed
  | aborted
  deriving DecidableEq, Repr

/-- Why the program failed. -/
inductive ProgramFault where
  | aborted
  | listener (f : BindFault)
  | watcher
  deriving DecidableEq, Repr

def ProgramFault.message : ProgramFault → String
  | .aborted => "Aborted"
  | .listener f => f.message
  | .watcher => "watcher failed"

inductive Part where
  | shutdown
  | proxy
  | watcher
  deriving DecidableEq, Repr

/-- What the supervisor waits for: the first part that ends, or the end of the shutdown. -/
inductive SupervisorPhase where
  | racing
  | awaitingShutdown
  | ended (result : Except ProgramFault Unit)

/-- The supervisor, and how the parts have ended so far. The first part that is seen to have ended
counts: a fault of the proxy or of the watcher ends the program at once, and otherwise it goes on
until its shutdown is complete. Where several parts have ended, any of them may be seen first. -/
structure Supervisor where
  shutdown : Option ShutdownOutcome := none
  proxy : Option (Except BindFault Unit) := none
  watcher : Option WatchOutcome := none
  phase : SupervisorPhase := .racing

namespace Supervisor

/-- What can happen: a part ends, or the supervisor sees that a part has ended. -/
inductive Event where
  | shutdownEnds (o : ShutdownOutcome)
  | proxyEnds (r : Except BindFault Unit)
  | watcherEnds (o : WatchOutcome)
  | see (p : Part)

def afterShutdown : ShutdownOutcome → Except ProgramFault Unit
  | .completed => .ok ()
  | .aborted => .error .aborted

/-- What the supervisor does about the end of a part, if the part has ended. -/
def sight? (s : Supervisor) : Part → Option SupervisorPhase
  | .shutdown => s.shutdown.map fun o => .ended (afterShutdown o)
  | .proxy =>
    s.proxy.map fun r =>
      match r with
      | .ok _ => .awaitingShutdown
      | .error f => .ended (.error (.listener f))
  | .watcher =>
    s.watcher.map fun o =>
      match o with
      | .completed => .awaitingShutdown
      | .failed => .ended (.error .watcher)

/-- One event, where it is possible. A part ends once. -/
def step? (s : Supervisor) : Event → Option Supervisor
  | .shutdownEnds o => if s.shutdown.isNone then some { s with shutdown := some o } else none
  | .proxyEnds r => if s.proxy.isNone then some { s with proxy := some r } else none
  | .watcherEnds o => if s.watcher.isNone then some { s with watcher := some o } else none
  | .see p =>
    match s.phase with
    | .racing => (s.sight? p).map fun phase => { s with phase }
    | .awaitingShutdown =>
      match p with
      | .shutdown => (s.sight? p).map fun phase => { s with phase }
      | _ => none
    | .ended _ => none

def result? (s : Supervisor) : Option (Except ProgramFault Unit) :=
  match s.phase with
  | .ended r => some r
  | _ => none

end Supervisor

end IngressProxy

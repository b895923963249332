import IngressProxy.Proxy.Connection

namespace IngressProxy

/-- What an attempt to accept yields. A connection comes with its number. -/
inductive Arrival where
  | connection (number : Nat)
  | failure
  deriving DecidableEq, Repr

/-- What the loop is doing: accepting, pausing until a time, or nothing any more. -/
inductive AcceptPhase where
  | accepting
  | pausing (deadline : Nat)
  | stopped
  deriving DecidableEq, Repr

/-- What the loop looks at first. -/
inductive Branch where
  | work
  | shutdown
  deriving DecidableEq, Repr

inductive AcceptAct where
  | attempt
  | handOver (number : Nat)
  | failure
  | lookAtShutdown (signaled : Bool)
  deriving DecidableEq, Repr

/-- A loop with its clock in milliseconds, the arrivals that wait, the tasks of the connections in
the order in which they were accepted, and all that it has done, newest last. An error does not end
the loop: it pauses and tries again. The loop ends when it sees the shutdown signal, which it looks
at both while it accepts and while it pauses. -/
structure AcceptLoop where
  tls : Bool := false
  now : Nat := 0
  waiting : List Arrival := []
  draining : Bool := false
  phase : AcceptPhase := .accepting
  tasks : List Connection := []
  history : List (Nat × AcceptAct) := []
  deriving DecidableEq, Repr

namespace AcceptLoop

/-- How long the loop pauses after an error, in milliseconds. -/
def pause : Nat := 100

/-- What can happen: something arrives, shutdown begins, the loop is polled, time passes, or a task
goes on. -/
inductive Event where
  | arrive (a : Arrival)
  | drain
  | poll (first : Branch)
  | elapse (ms : Nat)
  | task (i : Nat) (e : Connection.Event)
  deriving DecidableEq, Repr

def note (l : AcceptLoop) (act : AcceptAct) : AcceptLoop :=
  { l with history := l.history ++ [(l.now, act)] }

/-- Looks at the shutdown signal, and stops if it was given. -/
def lookAtShutdown (l : AcceptLoop) : AcceptLoop :=
  let l := l.note (.lookAtShutdown l.draining)
  if l.draining then { l with phase := .stopped } else l

/-- Tries to accept: a connection gets a task, an error a pause. Tells whether something had arrived. -/
def tryAccept (l : AcceptLoop) : AcceptLoop × Bool :=
  let l := l.note .attempt
  match l.waiting with
  | [] => (l, false)
  | .connection number :: rest =>
    (({ l with
      waiting := rest
      tasks := l.tasks ++ [Connection.accepted l.tls number] } : AcceptLoop).note
        (.handOver number), true)
  | .failure :: rest =>
    (({ l with waiting := rest, phase := .pausing (l.now + pause) } : AcceptLoop).note .failure, true)

/-- Ends a pause, and tells whether it was over. -/
def resume (deadline : Nat) (l : AcceptLoop) : AcceptLoop × Bool :=
  if deadline ≤ l.now then ({ l with phase := .accepting }, true) else (l, false)

/-- Looks at the work to be done and at the shutdown signal, in some order, until one of them is
ready. -/
def race (l : AcceptLoop) (first : Branch) (work : AcceptLoop → AcceptLoop × Bool) : AcceptLoop :=
  match first with
  | .work =>
    let (l, ready) := work l
    if ready then l else l.lookAtShutdown
  | .shutdown =>
    let l := l.lookAtShutdown
    if l.phase = .stopped then l else (work l).1

/-- One look of the loop. -/
def poll (l : AcceptLoop) (first : Branch) : AcceptLoop :=
  match l.phase with
  | .accepting => l.race first tryAccept
  | .pausing deadline => l.race first (resume deadline)
  | .stopped => l

/-- One event. Those of tasks that are not possible change nothing. -/
def step (l : AcceptLoop) : Event → AcceptLoop
  | .arrive a => { l with waiting := l.waiting ++ [a] }
  | .drain => { l with draining := true }
  | .poll first => l.poll first
  | .elapse ms => { l with now := l.now + ms }
  | .task i e => { l with tasks := l.tasks.modify i fun c => (c.step? l.draining e).getD c }

def run (l : AcceptLoop) (events : List Event) : AcceptLoop := events.foldl step l

/-- Whether the loop has ended and all its tasks are released. -/
def isReleased (l : AcceptLoop) : Bool :=
  l.phase = .stopped && l.tasks.all fun c => c.phase = .released

/-- Lets the loop take what has arrived, pausing where it has to. -/
def takeWaiting (l : AcceptLoop) : AcceptLoop :=
  l.run (l.waiting.flatMap fun _ => [.poll .work, .elapse pause, .poll .work])

/-- Lets the loop and its tasks do what they can do about a shutdown. -/
def settle (l : AcceptLoop) : AcceptLoop :=
  let l := l.poll .shutdown
  { l with tasks := l.tasks.map (Connection.settle l.draining) }

end AcceptLoop

end IngressProxy

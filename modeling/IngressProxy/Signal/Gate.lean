namespace IngressProxy

/-- How a wait ended: the gate was open, or shutdown began before that. -/
inductive WaitResult where
  | opened
  | cancelled
  deriving DecidableEq, Repr

def WaitResult.cancelledMessage : String := "cancelled"

/-- A task that waits: due to be polled, parked until it is woken, or finished. -/
inductive Wait where
  | due
  | parked
  | finished (result : WaitResult)
  deriving DecidableEq, Repr

/-- A gate that is opened once and stays open, the shutdown signal, and the waits in the order in
which they began. A wait ends when the gate is open, or is cancelled when shutdown begins before
that. One that is polled and finds neither is parked, and both events wake every parked wait. -/
structure Gate where
  isSet : Bool := false
  draining : Bool := false
  waits : List Wait := []
  deriving DecidableEq

namespace Gate

inductive Event where
  | set
  | drain
  | wait
  | poll (i : Nat)
  deriving DecidableEq

/-- Wakes a wait, if it is parked. -/
def wake : Wait → Wait
  | .parked => .due
  | w => w

/-- What a wait finds when it is polled. The gate is looked at first, so it wins over shutdown. -/
def outcome (g : Gate) : Option WaitResult :=
  if g.isSet then some .opened
  else if g.draining then some .cancelled
  else none

/-- Polls a wait, which finishes or is parked. -/
def poll (g : Gate) : Wait → Wait
  | .finished r => .finished r
  | .due | .parked =>
    match g.outcome with
    | some r => .finished r
    | none => .parked

/-- One event. Opening an open gate, and a second shutdown, change nothing. -/
def step (g : Gate) : Event → Gate
  | .set => if g.isSet then g else { g with isSet := true, waits := g.waits.map wake }
  | .drain => if g.draining then g else { g with draining := true, waits := g.waits.map wake }
  | .wait => { g with waits := g.waits ++ [.due] }
  | .poll i => { g with waits := g.waits.modify i g.poll }

def run (g : Gate) (events : List Event) : Gate := events.foldl step g

def settle (g : Gate) : Gate := g.run ((List.range g.waits.length).map .poll)

end Gate

end IngressProxy

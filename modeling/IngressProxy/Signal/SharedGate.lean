import IngressProxy.Signal.Gate

namespace IngressProxy

/-- A value with the number of its modifications. -/
structure Channel (α : Type) where
  value : α
  version : Nat := 0
  deriving DecidableEq, Repr

/-- What a task that waits at a channel keeps in mind: the modification that it has seen last, and
whether it was notified of one since. -/
structure Receiver where
  seen : Nat
  notified : Bool := false
  deriving DecidableEq, Repr

namespace Channel

variable {α : Type}

/-- Puts a value in place of another, and tells whether that counts as a modification. -/
def sendIfModified (c : Channel α) (f : α → α × Bool) : Channel α × Bool :=
  let (value, modified) := f c.value
  ({ value, version := if modified then c.version + 1 else c.version }, modified)

/-- Looks for a value that is wanted: nothing is left to wait for if it is there. -/
def look (c : Channel α) (wanted : α → Bool) : Option Receiver :=
  if wanted c.value then none else some { seen := c.version }

/-- Polls a receiver. It does not look at the value before it was notified, and then only if there is a
modification that it has not seen. -/
def poll (c : Channel α) (wanted : α → Bool) (r : Receiver) : Option Receiver :=
  if !r.notified then some r
  else if r.seen = c.version then some { seen := c.version }
  else c.look wanted

end Channel

/-- A task that waits: not yet polled, parked with its receiver and whether it was woken since its last
poll, or finished. -/
inductive Waiter where
  | created
  | parked (receiver : Receiver) (woken : Bool)
  | finished (result : WaitResult)
  deriving DecidableEq, Repr

namespace Waiter

def isFinished : Waiter → Bool
  | .finished _ => true
  | _ => false

def wake : Waiter → Waiter
  | .parked receiver _ => .parked receiver true
  | w => w

/-- Tells a waiter of a modification, which wakes it too. -/
def notify : Waiter → Waiter
  | .parked receiver _ => .parked { receiver with notified := true } true
  | w => w

/-- Whether a waiter is about to be polled of itself. A new one is. -/
def isWoken : Waiter → Bool
  | .created => true
  | .parked _ woken => woken
  | .finished _ => false

/-- A waiter without its receiver. -/
def view : Waiter → Wait
  | .created => .due
  | .parked _ woken => if woken then .due else .parked
  | .finished r => .finished r

end Waiter

/-- A gate as its tasks share it: whether it is open is the value of a channel. Shutdown wakes those who
wait without notifying them, so they look at the gate only if it was opened. -/
structure SharedGate where
  channel : Channel Bool := { value := false }
  draining : Bool := false
  waiters : List Waiter := []
  deriving DecidableEq, Repr

namespace SharedGate

def isSet (g : SharedGate) : Bool := g.channel.value

/-- Opens the gate. Whoever waits is notified if that modifies the value, and only then. -/
def set (g : SharedGate) : SharedGate :=
  let (channel, modified) := g.channel.sendIfModified fun isSet => (true, !isSet)
  { g with channel, waiters := if modified then g.waiters.map Waiter.notify else g.waiters }

/-- What a waiter does after its receiver was polled. The gate comes first, so it wins over shutdown. -/
def resume (g : SharedGate) : Option Receiver → Waiter
  | none => .finished .opened
  | some receiver => if g.draining then .finished .cancelled else .parked receiver false

/-- Polls a waiter, which subscribes and looks at the gate when that is done for the first time. -/
def poll (g : SharedGate) : Waiter → Waiter
  | .created => g.resume (g.channel.look id)
  | .parked receiver _ => g.resume (g.channel.poll id receiver)
  | .finished r => .finished r

/-- One event. A second signal to shut down changes nothing. -/
def step (g : SharedGate) : Gate.Event → SharedGate
  | .set => g.set
  | .drain =>
    if g.draining then g
    else { g with draining := true, waiters := g.waiters.map Waiter.wake }
  | .wait => { g with waiters := g.waiters ++ [.created] }
  | .poll i => { g with waiters := g.waiters.modify i g.poll }

def run (g : SharedGate) (events : List Gate.Event) : SharedGate := events.foldl step g

/-- The gate without its channel. -/
def view (g : SharedGate) : Gate where
  isSet := g.isSet
  draining := g.draining
  waits := g.waiters.map Waiter.view

end SharedGate

end IngressProxy

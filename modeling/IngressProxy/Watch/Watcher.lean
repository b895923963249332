import IngressProxy.Cluster.Reconcile
import IngressProxy.Watch.Debounce

namespace IngressProxy

inductive Kind where
  | ingress
  | service
  | secret
  deriving DecidableEq, Repr

def StoreOp.kind : StoreOp → Kind
  | .ingress _ => .ingress
  | .service _ => .service
  | .secret _ => .secret

/-- A payload that was handed on, and when. -/
structure Emission where
  time : Nat
  payload : Payload

/-- The state of a watcher: the store, the tasks that have written and not yet notified, the
debouncer, the payload that was read and not yet handed on, and everything handed on, newest last.
The three tasks and the debouncer each act on their own, so a list of events is one way in which
they may interleave. -/
structure Watcher where
  debouncer : Debouncer
  store : Store := {}
  unannounced : List Kind := []
  inHand : Option Payload := none
  emitted : List Emission := []

namespace Watcher

/-- A watcher with a window of that many milliseconds. -/
def start (window : Nat) : Watcher := { debouncer := { window } }

/-- An act of a task or of the debouncer, or the passing of time. -/
inductive Event where
  | write (op : StoreOp)
  | announce (kind : Kind)
  | wake
  | expire
  | read
  | emit
  | elapse (ms : Nat)

def debounce? (w : Watcher) (e : Debouncer.Event) : Option Watcher :=
  (w.debouncer.step? e).map fun d => { w with debouncer := d }

/-- One act, where it is possible. A task notifies after each write before it writes again; the
debouncer works by reading the store once and then handing on what it has read. -/
def step? (w : Watcher) : Event → Option Watcher
  | .write op =>
    if op.kind ∈ w.unannounced then none
    else some { w with store := w.store.run op, unannounced := op.kind :: w.unannounced }
  | .announce kind =>
    if kind ∈ w.unannounced then
      ({ w with unannounced := w.unannounced.filter (· ≠ kind) } : Watcher).debounce? .notify
    else none
  | .wake => w.debounce? .wake
  | .expire => w.debounce? .expire
  | .read =>
    match w.debouncer.phase, w.inHand with
    | .working, none => some { w with inHand := some (Payload.ofLister w.store.lister) }
    | _, _ => none
  | .emit =>
    match w.inHand with
    | some payload =>
      ({ w with
        inHand := none
        emitted := w.emitted ++ [{ time := w.debouncer.now, payload }] } : Watcher).debounce? .finish
    | none => none
  | .elapse ms => w.debounce? (.elapse ms)

/-- Acts in order; those that are not possible are left out. -/
def runPossible (w : Watcher) (events : List Event) : Watcher :=
  events.foldl (fun w e => (w.step? e).getD w) w

/-- Lets the debouncer do what it can do now. -/
def settle (w : Watcher) : Watcher := w.runPossible [.wake, .expire, .read, .emit]

/-- A task writes and notifies. -/
def index (w : Watcher) (op : StoreOp) : Watcher := w.runPossible [.write op, .announce op.kind]

/-- Lets time pass, with the debouncer at work when its window ends. -/
def advance (w : Watcher) (ms : Nat) : Watcher :=
  match w.debouncer.phase with
  | .armed deadline =>
    let now := w.debouncer.now
    if deadline ≤ now + ms then
      let w := (w.runPossible [.elapse (deadline - now)]).settle
      w.runPossible [.elapse (now + ms - w.debouncer.now)]
    else w.runPossible [.elapse ms]
  | _ => w.runPossible [.elapse ms]

/-- The number of ingresses in the newest payload. -/
def ingressCount (w : Watcher) : Nat :=
  match w.emitted.getLast? with
  | some e => e.payload.ingresses.length
  | none => 0

def reconciliations (w : Watcher) : Nat := w.emitted.length

end Watcher

end IngressProxy

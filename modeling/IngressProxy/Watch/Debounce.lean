namespace IngressProxy

structure Trigger where
  pending : Bool := false
  deriving DecidableEq, Repr, Inhabited

namespace Trigger

def notify (_ : Trigger) : Trigger := ⟨true⟩

def take? (t : Trigger) : Option Trigger := if t.pending then some ⟨false⟩ else none

end Trigger

/-- What a debouncer is doing: waiting for a first notification, waiting for a window to pass, or
working. -/
inductive Phase where
  | idle
  | armed (deadline : Nat)
  | working
  deriving DecidableEq, Repr

/-- A debouncer with its clock, in milliseconds since it was started. It works once notifications
have been absent for a whole window. At most one notification is pending, and it is kept until
somebody waits for it, so that none is lost while the work is under way. -/
structure Debouncer where
  window : Nat
  now : Nat := 0
  trigger : Trigger := {}
  phase : Phase := .idle
  deriving DecidableEq, Repr

namespace Debouncer

/-- The window that is kept unless another one is asked for, in milliseconds. -/
def defaultWindow : Nat := 1000

/-- What can happen: somebody notifies, the debouncer takes a notification, a window ends and work
begins, the work ends, time passes. -/
inductive Event where
  | notify
  | wake
  | expire
  | finish
  | elapse (ms : Nat)
  deriving DecidableEq, Repr

/-- Whether a task that is not working has something to do now. -/
def isDue (d : Debouncer) : Bool :=
  match d.phase with
  | .idle => d.trigger.pending
  | .armed deadline => d.trigger.pending || deadline ≤ d.now
  | .working => false

/-- The latest time to which the clock may go before the debouncer has to act. -/
def mayReach (d : Debouncer) (time : Nat) : Bool :=
  match d.phase with
  | .armed deadline => time ≤ deadline
  | _ => true

/-- One event, where it is possible. Where a notification and the end of a window meet, either may
come first. Time does not pass a moment at which there is something to do. -/
def step? (d : Debouncer) : Event → Option Debouncer
  | .notify => some { d with trigger := d.trigger.notify }
  | .wake =>
    if d.phase = .working then none
    else d.trigger.take?.map fun t => { d with trigger := t, phase := .armed (d.now + d.window) }
  | .expire =>
    match d.phase with
    | .armed deadline => if deadline ≤ d.now then some { d with phase := .working } else none
    | _ => none
  | .finish => if d.phase = .working then some { d with phase := .idle } else none
  | .elapse ms =>
    if ms = 0 then some d
    else if d.isDue then none
    else if d.mayReach (d.now + ms) then some { d with now := d.now + ms } else none

def run? (d : Debouncer) (events : List Event) : Option Debouncer := events.foldlM step? d

end Debouncer

end IngressProxy

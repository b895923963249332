import IngressProxy.Proxy.AcceptLoop
import IngressProxy.Proxy.Server
import IngressProxy.Signal.Gate

namespace IngressProxy

inductive ListenerKind where
  | http
  | https
  deriving DecidableEq, Repr

def ListenerKind.label : ListenerKind → String
  | .http => "HTTP"
  | .https => "HTTPS"

/-- A listener that cannot be bound to its address. -/
structure BindFault where
  kind : ListenerKind
  address : SocketAddress
  deriving DecidableEq, Repr

/-- The wording of a fault, with an address as it is to be shown. -/
def BindFault.messageAt (f : BindFault) (address : String) : String :=
  "failed to bind " ++ f.kind.label ++ " listener on " ++ address

def BindFault.message (f : BindFault) : String := f.messageAt f.address.render

/-- A listener: not yet bound, not to be bound, or with its accepting loop. -/
inductive Listener where
  | unbound
  | failed
  | bound (loop : AcceptLoop)
  deriving DecidableEq, Repr

namespace Listener

def loop? : Listener → Option AcceptLoop
  | .bound loop => some loop
  | _ => none

/-- Whether no more connections will be accepted. -/
def hasEnded : Listener → Bool
  | .unbound => false
  | .failed => true
  | .bound loop => loop.phase = .stopped

def isListening (l : Listener) : Bool :=
  match l with
  | .bound loop => loop.phase ≠ .stopped
  | _ => false

/-- Whether nothing of the listener holds up a shutdown. -/
def isReleased : Listener → Bool
  | .bound loop => loop.isReleased
  | _ => true

def modify (l : Listener) (f : AcceptLoop → AcceptLoop) : Listener :=
  match l with
  | .bound loop => .bound (f loop)
  | l => l

end Listener

/-- A server that is being run: its gate, at which it is the only one that waits, its listeners, and
how it returned. It binds its listeners when it has found the gate open, or returns at once if
shutdown begins before that is seen. Else it returns when both have ended, so that a listener that
cannot be bound is reported only when the other one has ended too. -/
structure Lifecycle where
  config : Server.Config := {}
  gate : Gate := { waits := [.due] }
  http : Listener := .unbound
  https : Listener := .unbound
  result : Option (Except BindFault Unit) := none

namespace Lifecycle

/-- What can happen: a table is installed, shutdown begins, the server looks at the gate, tries to
bind a listener, something happens at a listener, or the server returns. -/
inductive Event where
  | update
  | drain
  | poll
  | bind (kind : ListenerKind) (free : Bool)
  | accept (kind : ListenerKind) (e : AcceptLoop.Event)
  | finish
  deriving DecidableEq, Repr

def listener (s : Lifecycle) : ListenerKind → Listener
  | .http => s.http
  | .https => s.https

def setListener (s : Lifecycle) : ListenerKind → Listener → Lifecycle
  | .http, l => { s with http := l }
  | .https, l => { s with https := l }

def address (s : Lifecycle) : ListenerKind → SocketAddress
  | .http => { ip := s.config.host, port := s.config.port }
  | .https => { ip := s.config.host, port := s.config.tlsPort }

/-- How the wait at the gate ended. -/
def admission (s : Lifecycle) : Option WaitResult :=
  match s.gate.waits with
  | .finished r :: _ => some r
  | _ => none

def outcome (s : Lifecycle) (kind : ListenerKind) : Except BindFault Unit :=
  match s.listener kind with
  | .failed => .error { kind, address := s.address kind }
  | _ => .ok ()

/-- How the server ends: with the first fault of its listeners, if there is one. -/
def joined (s : Lifecycle) : Except BindFault Unit := do
  s.outcome .http
  s.outcome .https

/-- One event, where it is possible. -/
def step? (s : Lifecycle) : Event → Option Lifecycle
  | .update => some { s with gate := s.gate.step .set }
  | .drain =>
    some { s with
      gate := s.gate.step .drain
      http := s.http.modify (·.step .drain)
      https := s.https.modify (·.step .drain) }
  | .poll =>
    if s.admission.isSome then none
    else
      let s := { s with gate := s.gate.step (.poll 0) }
      some (if s.admission = some .cancelled then { s with result := some (.ok ()) } else s)
  | .bind kind free =>
    match s.admission, s.listener kind with
    | some .opened, .unbound =>
      some (s.setListener kind
        (if free then .bound { tls := kind = .https, draining := s.gate.draining } else .failed))
    | _, _ => none
  | .accept kind e =>
    match s.listener kind with
    | .bound loop => some (s.setListener kind (.bound (loop.step e)))
    | _ => none
  | .finish =>
    if s.result.isNone ∧ s.http.hasEnded ∧ s.https.hasEnded then some { s with result := some s.joined }
    else none

def run? (s : Lifecycle) (events : List Event) : Option Lifecycle := events.foldlM step? s

/-- Events in order; those that are not possible are left out. -/
def runPossible (s : Lifecycle) (events : List Event) : Lifecycle :=
  events.foldl (fun s e => (s.step? e).getD s) s

/-- Whether shutdown has begun and nothing holds it up any more. -/
def isDrained (s : Lifecycle) : Bool :=
  s.gate.draining && s.result.isSome && s.http.isReleased && s.https.isReleased

/-- Lets the server do what it can do, given which addresses are free. The plain listener is bound
first. -/
def settle (s : Lifecycle) (free : SocketAddress → Bool) : Lifecycle :=
  let s := s.runPossible [.poll, .bind .http (free (s.address .http))]
  let taken (a : SocketAddress) : Bool :=
    s.http.isListening && a.port = s.config.port && a.port ≠ 0
  let s := s.runPossible [.bind .https (free (s.address .https) && !taken (s.address .https))]
  let s := { s with http := s.http.modify AcceptLoop.settle, https := s.https.modify AcceptLoop.settle }
  s.runPossible [.finish]

end Lifecycle

end IngressProxy

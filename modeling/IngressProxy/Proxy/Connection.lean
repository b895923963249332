namespace IngressProxy

inductive ConnectionPhase where
  | handshaking
  | serving
  | closing
  | released
  deriving DecidableEq, Repr

/-- A connection under its number: whether its client has sent anything, and whether a request is
being answered. Over TLS its task begins with a handshake, which waits for the client alone; at
shutdown it finishes the request that it is answering and closes. Until it is released, a task holds
up the end of the shutdown. -/
structure Connection where
  number : Nat
  phase : ConnectionPhase
  received : Bool := false
  busy : Bool := false
  deriving DecidableEq, Repr

namespace Connection

def accepted (tls : Bool) (number : Nat) : Connection where
  number := number
  phase := if tls then .handshaking else .serving

inductive ClientEvent where
  | receive
  | hangUp
  deriving DecidableEq, Repr

/-- What the task does: it ends a handshake well or not, begins to answer a request, sends the answer
and keeps the connection or not, sees the shutdown signal, and closes. -/
inductive ServerEvent where
  | handshake (succeeded : Bool)
  | beginRequest
  | respond (keeps : Bool)
  | seeDrain
  | close
  deriving DecidableEq, Repr

inductive Event where
  | client (e : ClientEvent)
  | server (e : ServerEvent)
  deriving DecidableEq, Repr

def clientStep (c : Connection) : ClientEvent → Connection
  | .receive => { c with received := true }
  | .hangUp => { c with phase := .released, busy := false }

def serverStep? (draining : Bool) (c : Connection) : ServerEvent → Option Connection
  | .handshake succeeded =>
    if c.phase = .handshaking ∧ c.received then
      some { c with phase := if succeeded then .serving else .released }
    else none
  | .beginRequest =>
    if c.phase = .serving ∧ c.received ∧ !c.busy then some { c with busy := true } else none
  | .respond keeps =>
    if c.busy then
      some { c with busy := false, phase := if keeps then c.phase else .released }
    else none
  | .seeDrain =>
    if draining ∧ c.phase = .serving then some { c with phase := .closing } else none
  | .close => if c.phase = .closing ∧ !c.busy then some { c with phase := .released } else none

/-- One event, where it is possible. Nothing happens on a connection that is released. -/
def step? (draining : Bool) (c : Connection) (e : Event) : Option Connection :=
  if c.phase = .released then none
  else
    match e with
    | .client e => some (c.clientStep e)
    | .server e => c.serverStep? draining e

/-- Lets the task do what it can do about a shutdown. -/
def settle (draining : Bool) (c : Connection) : Connection :=
  let c := (c.step? draining (.server .seeDrain)).getD c
  (c.step? draining (.server .close)).getD c

end Connection

end IngressProxy

import IngressProxy.Program.Admin
import IngressProxy.Program.Cluster
import IngressProxy.Program.Kubeconfig
import IngressProxy.Program.Metrics
import IngressProxy.Program.Running
import IngressProxy.Scenario.Session
import IngressProxy.Tls.Handshake

namespace IngressProxy

/-- Why the program cannot be started: the cluster is not known, or the address for administration
cannot be bound. -/
inductive BuildFault where
  | client
  | admin
  deriving DecidableEq, Repr

/-- What the program finds: the files that it may read, and the ports at which others listen. -/
structure Environment where
  files : String → Option String := fun _ => none
  taken : List UInt16 := []

/-- Whether a listener could be bound to an address. Only the host's own addresses can be bound, and
port zero stands for any that is free. -/
def Environment.isFree (e : Environment) (a : SocketAddress) : Bool :=
  (a.ip.isLoopback || a.ip.isUnspecified) && (a.port = 0 || !e.taken.contains a.port)

def BuildFault.message : BuildFault → String
  | .client => "failed to find a cluster"
  | .admin => "failed to bind the address for administration"

/-- A program that is running, in an environment of files, ports and signals. `watched` are the
kinds whose listings have been taken in, and `held` the connections at each listener that clients
keep without reading. Between two acts of the environment every part does what it can do. -/
structure Program extends RunningProgram where
  arguments : Arguments
  environment : Environment
  feeds : Feeds
  scenario : Scenario := {}
  watched : List Kind := []
  held : List (ListenerKind × Nat) := []

namespace Program

def adminPort (p : Program) : UInt16 := p.arguments.adminAddress.port

/-- Starts the program, if the cluster is known and it can be administered. -/
def start (a : Arguments) (e : Environment) (scenario : Scenario) : Except BuildFault Program := do
  let config := do (← Kubeconfig.parse? (← e.files (← a.kubeconfig))).server? a
  if config.isNone then throw .client
  if !e.isFree a.adminAddress then throw .admin
  pure {
    arguments := a
    environment := { e with taken := a.adminAddress.port :: e.taken }
    feeds := .start a.debounceMs
    scenario
    lifecycle := { config := a.server } }

def metrics (p : Program) : List String :=
  Metrics.ofProgram p.scenario.server.counts p.feeds.watcher

def administer (p : Program) (r : Http.Request) : Http.Response := Admin.respond p.metrics r

/-- Installs the payloads that the watcher has handed on. -/
def publish (p : Program) : Program :=
  (p.feeds.watcher.emitted.drop p.scenario.server.counts.updates).foldl (fun p e =>
    { p with
      scenario := { p.scenario with server := p.scenario.server.update e.payload }
      toRunningProgram := p.runPossible [.life .update] }) p

/-- What the supervisor is told and sees. -/
def supervise (p : Program) : Program :=
  let ends : List RunningProgram.Event :=
    (p.feeds.outcome.map .watcherEnds).toList ++
      [.proxyEnds, .shutdownEnds .completed, .shutdownEnds .aborted]
  { p with
    toRunningProgram :=
      p.runPossible (ends ++ [.see .watcher, .see .proxy, .see .shutdown]) }

/-- Lets every part do what it can do. -/
def settle (p : Program) : Program :=
  let p := p.publish
  let p := { p with lifecycle := p.lifecycle.settle p.environment.isFree }
  p.supervise

def advance (p : Program) (ms : Nat) : Program :=
  ({ p with feeds := p.feeds.advance ms } : Program).settle

/-- An event of the cluster. Objects that are not asked for are not seen. -/
def observe (p : Program) (e : ClusterEvent) : Program :=
  if e.isSelected then ({ p with feeds := p.feeds.observe e } : Program).settle else p

/-- The objects that there are in the cluster at first. Unless one of them cannot be taken in, all kinds
are watched from then on. -/
def list (p : Program) (c : ClusterObjects) : Program :=
  let p := c.events.foldl observe p.settle
  if p.feeds.outcome.isNone then { p with watched := Kind.all } else p

/-- A signal. The first one begins the shutdown, which also ends the feeds. -/
def signal (p : Program) : Program :=
  ({ p with
    toRunningProgram := p.runPossible [.signal]
    feeds := Kind.all.foldl Feeds.close p.feeds } : Program).settle

def listenerAt? (p : Program) (port : UInt16) : Option ListenerKind :=
  [ListenerKind.http, .https].find? fun kind =>
    (p.lifecycle.address kind).port = port && (p.lifecycle.listener kind).isListening

/-- The address from which clients come: the loopback address of the family of the listeners. -/
def clientAddress (p : Program) : IpAddress :=
  match p.arguments.server.host with
  | .v4 .. => .v4 127 0 0 1
  | .v6 _ => .v6 [0, 0, 0, 0, 0, 0, 0, 1]

/-- The program on its network, where its own administration can be reached too. -/
def world (p : Program) : Scenario :=
  { p.scenario with
    network := { p.scenario.network with programs := [(p.adminPort, p.administer)] } }

def connect? (p : Program) (kind : ListenerKind) : Option Session := do
  p.world.connect? (← (p.lifecycle.listener kind).loop?) p.clientAddress 0

def connectAdmin? (p : Program) : Option Session :=
  (p.world.connect? {} (.v4 127 0 0 1) 0).map fun s =>
    { s with answer := fun scenario r _ => (scenario, some (p.administer r, [], false)) }

/-- Takes over what has become of a connection. -/
def resume (p : Program) (kind : ListenerKind) (s : Session) : Program :=
  ({ p with
    scenario := s.scenario
    lifecycle := p.lifecycle.setListener kind (.bound s.loop) } : Program).settle

/-- A client sends a request and keeps the connection without reading. Over TLS this is not the start
of a handshake: as long as it might become one, the server waits for the rest. -/
def hold (p : Program) (kind : ListenerKind) (s : Session) (request : Bytes) : Program :=
  let s := match kind with
    | .http => s.receive [] request
    | .https =>
      let s := if request.isEmpty then s else s.act (.client .receive)
      if Handshake.awaitsMore request then s else s.act (.server (.handshake false))
  { p.resume kind s with held := (kind, s.task) :: p.held }

/-- The clients close all connections that they keep. -/
def release (p : Program) : Program :=
  let hangUps := p.held.map fun e => Lifecycle.Event.accept e.1 (.task e.2 (.client .hangUp))
  ({ p with lifecycle := p.lifecycle.runPossible hangUps, held := [] } : Program).settle

def clusterRequests (p : Program) : List ClusterRequest :=
  Kind.all.map (⟨·, .list⟩) ++ p.watched.map (⟨·, .watch⟩)

end Program

end IngressProxy

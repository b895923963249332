import IngressProxy.CommandLine.LogFilter
import IngressProxy.Proxy.Server
import IngressProxy.Watch.Debounce

namespace IngressProxy

/-- What can be set: each by an option with a value, which follows an equals sign or is the next
argument, and at most once. -/
inductive Setting where
  | logLevel
  | logFormat
  | cluster
  | context
  | user
  | kubeconfig
  | impersonatedUser
  | impersonatedGroup
  | headersTimeout
  | adminAddress
  | host
  | port
  | tlsPort
  | debounceMs
  | backendConnectTimeoutMs
  deriving DecidableEq, Repr

namespace Setting

/-- All settings, under the names by which they are given. -/
def names : List (String × Setting) := [
  ("log-level", .logLevel),
  ("log-format", .logFormat),
  ("cluster", .cluster),
  ("context", .context),
  ("user", .user),
  ("kubeconfig", .kubeconfig),
  ("as", .impersonatedUser),
  ("as-group", .impersonatedGroup),
  ("kube-api-response-headers-timeout", .headersTimeout),
  ("admin-addr", .adminAddress),
  ("host", .host),
  ("port", .port),
  ("tls-port", .tlsPort),
  ("debounce-ms", .debounceMs),
  ("backend-connect-timeout-ms", .backendConnectTimeoutMs)]

def ofName? (name : String) : Option Setting := names.lookup name

end Setting

/-- Why a command line is refused: an argument is unknown, an option has no value or one that cannot
be read, or it is given twice. -/
inductive UsageFault where
  | unknownArgument
  | missingValue
  | invalidValue
  | repeated
  deriving DecidableEq, Repr

def UsageFault.message : UsageFault → String
  | .unknownArgument => "unexpected argument"
  | .missingValue => "a value is required"
  | .invalidValue => "invalid value"
  | .repeated => "the argument cannot be used multiple times"

inductive LogFormat where
  | plain
  | json
  deriving DecidableEq, Repr

structure Arguments where
  logFilter : Option String := none
  logFormat : LogFormat := .plain
  cluster : Option String := none
  context : Option String := none
  user : Option String := none
  kubeconfig : Option String := none
  impersonatedUser : Option String := none
  impersonatedGroup : Option String := none
  headersTimeoutMs : Option Nat := none
  adminAddress : SocketAddress := { ip := .v4 0 0 0 0, port := 8080 }
  server : Server.Config := {}
  debounceMs : Nat := Debouncer.defaultWindow
  deriving DecidableEq, Repr

namespace Arguments

/-- The status with which the program ends if the command line is refused. -/
def usageStatus : UInt8 := 2

/-- The variable of the environment that holds the log filter, if none is given. -/
def logVariable : String := "LINKERD_INGRESS_LOG"

def readNumber? (limit : Nat) (s : String) : Option Nat :=
  (LogFilter.readUnsigned? s.toList).filter (· ≤ limit)

def readPort? (s : String) : Option UInt16 := (readNumber? 65535 s).map UInt16.ofNat

def maxMillis : Nat := UInt64.size - 1

def units : List (String × Nat) :=
  [("ms", 1), ("s", 1000), ("m", 60000), ("h", 3600000), ("d", 86400000)]

/-- Reads a duration: a number and its unit, which only zero can do without. -/
def readDuration? (s : String) : Option Nat := do
  let isBlank := Unicode.blank.contains
  let cs := ((s.toList.dropWhile isBlank).reverse.dropWhile isBlank).reverse
  let isNumberPart (c : Char) : Bool := c.isDigit || c = '+'
  let n ← readNumber? maxMillis (String.ofList (cs.takeWhile isNumberPart))
  let unit := String.ofList (cs.dropWhile isNumberPart)
  if unit.isEmpty then (if n = 0 then some 0 else none)
  else
    let ms := n * (← units.lookup unit)
    if ms ≤ maxMillis then some ms else none

def readLogFormat? : String → Option LogFormat
  | "plain" => some .plain
  | "json" => some .json
  | _ => none

def set (a : Arguments) (s : Setting) (v : String) : Except UsageFault Arguments :=
  let read {α : Type} (value : Option α) (f : α → Arguments) : Except UsageFault Arguments :=
    match value with
    | some x => .ok (f x)
    | none => .error .invalidValue
  match s with
  | .logLevel =>
    if LogFilter.isFilter v then .ok { a with logFilter := some v } else .error .invalidValue
  | .logFormat => read (readLogFormat? v) fun x => { a with logFormat := x }
  | .cluster => .ok { a with cluster := some v }
  | .context => .ok { a with context := some v }
  | .user => .ok { a with user := some v }
  | .kubeconfig =>
    if v.isEmpty then .error .missingValue else .ok { a with kubeconfig := some v }
  | .impersonatedUser => .ok { a with impersonatedUser := some v }
  | .impersonatedGroup => .ok { a with impersonatedGroup := some v }
  | .headersTimeout => read (readDuration? v) fun x => { a with headersTimeoutMs := some x }
  | .adminAddress => read (SocketAddress.parse? v) fun x => { a with adminAddress := x }
  | .host => read (IpAddress.parse? v) fun x => { a with server.host := x }
  | .port => read (readPort? v) fun x => { a with server.port := x }
  | .tlsPort => read (readPort? v) fun x => { a with server.tlsPort := x }
  | .debounceMs => read (readNumber? maxMillis v) fun x => { a with debounceMs := x }
  | .backendConnectTimeoutMs =>
    read (readNumber? maxMillis v) fun x => { a with server.backendConnectTimeoutMs := x }

end Arguments

/-- A reader of a command line: what was given so far, and the last option as long as its value may
still follow or has not been looked at. After a lone `--` no option is recognized. -/
structure ArgumentReader where
  arguments : Arguments := {}
  given : List Setting := []
  last : Option (Setting × Option String) := none
  onlyPlain : Bool := false

namespace ArgumentReader

def accept (r : ArgumentReader) (s : Setting) (v : String) : Except UsageFault ArgumentReader :=
  if s ∈ r.given then .error .repeated
  else (r.arguments.set s v).map fun arguments => { r with arguments, given := s :: r.given }

/-- Takes the last option, which is now complete. -/
def finishLast (r : ArgumentReader) : Except UsageFault ArgumentReader :=
  match r.last with
  | none => .ok r
  | some (_, none) => .error .missingValue
  | some (s, some v) => ({ r with last := none } : ArgumentReader).accept s v

inductive Shape where
  | separator
  | option (name : String) (value : Option String)
  | letters
  | plain
  deriving DecidableEq, Repr

/-- How an argument is written. A lone hyphen is a plain one. -/
def shape (argument : String) : Shape :=
  match argument.toList with
  | ['-', '-'] => .separator
  | '-' :: '-' :: cs =>
    let name := String.ofList (cs.takeWhile (· ≠ '='))
    match cs.dropWhile (· ≠ '=') with
    | [] => .option name none
    | _ :: value => .option name (some (String.ofList value))
  | '-' :: _ :: _ => .letters
  | _ => .plain

/-- Takes one argument. An unknown one is refused before the last option is looked at. -/
def step (r : ArgumentReader) (argument : String) : Except UsageFault ArgumentReader :=
  if r.onlyPlain then .error .unknownArgument
  else
    match shape argument with
    | .separator => .ok { r with onlyPlain := true }
    | .option name value =>
      match Setting.ofName? name, value with
      | none, _ => .error .unknownArgument
      | some s, none => do
        let r ← r.finishLast
        .ok { r with last := some (s, none) }
      | some s, some v => do
        let r ← r.finishLast
        r.accept s v
    | .letters => .error .unknownArgument
    | .plain =>
      match r.last with
      | some (s, none) => .ok { r with last := some (s, some argument) }
      | _ => .error .unknownArgument

end ArgumentReader

namespace Arguments

/-- Reads the arguments of a command line, given the log filter of the environment. -/
def parse (arguments : List String) (logFilter : Option String) : Except UsageFault Arguments := do
  let r ← arguments.foldlM ArgumentReader.step {}
  let r ← r.finishLast
  match logFilter with
  | some v => if .logLevel ∈ r.given then .ok r.arguments else r.arguments.set .logLevel v
  | none => .ok r.arguments

end Arguments

end IngressProxy

import IngressProxy.Watch.Indexing
import IngressProxy.Watch.Watcher

namespace IngressProxy

/-- An event of one of the feeds. -/
inductive ClusterEvent where
  | ingress (e : FeedEvent Ingress)
  | service (e : FeedEvent Service)
  | secret (e : FeedEvent Secret)

def ClusterEvent.kind : ClusterEvent → Kind
  | .ingress _ => .ingress
  | .service _ => .service
  | .secret _ => .secret

inductive WatchOutcome where
  | completed
  | failed
  deriving DecidableEq, Repr

/-- A watcher with the followers of its feeds, the feeds that are still followed, and its end. It
ends when all feeds have ended, and fails when a task meets an event that it cannot index; the
reconciliation that was due is then lost, while the other tasks keep writing into the store. -/
structure Feeds where
  watcher : Watcher
  ingresses : Indexer Ingress := {}
  services : Indexer Service := {}
  secrets : Indexer Secret := {}
  following : List Kind := [.ingress, .service, .secret]
  outcome : Option WatchOutcome := none

namespace Feeds

/-- A watcher with a window of that many milliseconds, before anything has been observed. -/
def start (window : Nat) : Feeds := { watcher := .start window }

/-- Lets the debouncer act, unless the watcher has ended. -/
def settle (f : Feeds) : Feeds :=
  if f.outcome.isNone then { f with watcher := f.watcher.settle } else f

/-- The follower's part of an event: the new state, and the change that it asks for. -/
def follow? (f : Feeds) : ClusterEvent → Option (Feeds × Option StoreOp)
  | .ingress e => (f.ingresses.step? e).map fun r => ({ f with ingresses := r.1 }, r.2.map .ingress)
  | .service e => (f.services.step? e).map fun r => ({ f with services := r.1 }, r.2.map .service)
  | .secret e => (f.secrets.step? e).map fun r => ({ f with secrets := r.1 }, r.2.map .secret)

def unfollow (f : Feeds) (kind : Kind) : Feeds :=
  { f with following := f.following.filter (· ≠ kind) }

/-- One event. Events of a feed that is no longer followed are not seen. -/
def observe (f : Feeds) (e : ClusterEvent) : Feeds :=
  if e.kind ∈ f.following then
    match f.follow? e with
    | some (f, some op) => ({ f with watcher := f.watcher.index op } : Feeds).settle
    | some (f, none) => f
    | none =>
      let f := f.unfollow e.kind
      { f with outcome := f.outcome <|> some .failed }
  else f

def close (f : Feeds) (kind : Kind) : Feeds :=
  let f := f.unfollow kind
  if f.following.isEmpty then { f with outcome := f.outcome <|> some .completed } else f

def advance (f : Feeds) (ms : Nat) : Feeds :=
  if f.outcome.isNone then { f with watcher := f.watcher.advance ms } else f

end Feeds

end IngressProxy

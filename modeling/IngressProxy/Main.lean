import IngressProxy.Program.Basic

open IngressProxy

namespace IngressProxy.Main

/-- Prints the tables that were installed since an earlier state of the program. -/
def printTables (before after : Program) : IO Unit := do
  for e in after.feeds.watcher.emitted.drop before.feeds.watcher.emitted.length do
    for line in (RoutingTable.ofPayload e.payload).lines do
      IO.println line

/-- Feeds the program with the lines of standard input until they end, which counts as a signal. -/
partial def feed (stdin : IO.FS.Stream) (p : Program) (time : Nat) : IO Program := do
  let line ← stdin.getLine
  let now ← IO.monoMsNow
  let next := p.advance (now - time)
  printTables p next
  if line.isEmpty then return next.signal
  let next := match (Json.parse? line).bind ClusterEvent.ofWatch? with
    | some e => next.observe e
    | none => next
  if next.result?.isSome then return next
  feed stdin next now

end IngressProxy.Main

/-- The command line of the program. The events of the cluster come from standard input, one JSON
value a line, as they are written by a watch; each new routing table is printed as soon as the
cluster has been quiet for the time that was asked for. -/
def main (argv : List String) : IO UInt32 := do
  match Arguments.parse argv (← IO.getEnv Arguments.logVariable) with
  | .error f =>
    IO.eprintln f.message
    return Arguments.usageStatus.toUInt32
  | .ok a =>
    let config ← match a.kubeconfig with
      | some path => (some <$> IO.FS.readFile path) <|> pure none
      | none => pure none
    match Program.start a { files := fun _ => config } {} with
    | .error f =>
      IO.eprintln f.message
      return 1
    | .ok p =>
      match (← Main.feed (← IO.getStdin) (p.list {}) (← IO.monoMsNow)).result? with
      | some (.error f) =>
        IO.eprintln f.message
        return 1
      | _ => return 0

import IngressProxy.Proofs.Proxy.Publication

namespace IngressProxy

open Http

namespace Counts

/-- The number of requests that have ended in a way. -/
def of (c : Counts) : Outcome → Nat
  | .proxied => c.proxied
  | .notFound => c.notFound
  | .badGateway => c.badGateway

end Counts

def UpdateStage.isCounted : UpdateStage → Bool
  | .started | .built _ | .installed => false
  | .counted | .returned => true

def RequestTask.hasEndedAs (outcome : Outcome) (task : RequestTask) : Bool :=
  task.answer.map Prod.fst = some outcome

namespace ServerTasks

/-- Whether the counts of a server are those of its tasks: of the requests that have ended, each under
its outcome, and of the updates that have been counted. -/
structure Tallies (s : ServerTasks) : Prop where
  outcomes : ∀ outcome, s.server.counts.of outcome = s.requests.countP (·.hasEndedAs outcome)
  updates : s.server.counts.updates = s.updates.countP (·.stage.isCounted)

theorem countP_hasEndedAs (tasks : List RequestTask) :
    tasks.countP (·.hasEndedAs .proxied) + tasks.countP (·.hasEndedAs .notFound) +
      tasks.countP (·.hasEndedAs .badGateway) = tasks.countP (·.answer.isSome) := by
  induction tasks with
  | nil => rfl
  | cons task tasks ih =>
    simp only [List.countP_cons, RequestTask.hasEndedAs] at ih ⊢
    rcases task.answer with _ | ⟨outcome, response⟩
    · simpa using ih
    · cases outcome <;> simp <;> omega

theorem Tallies.requests {s : ServerTasks} (hs : s.Tallies) :
    s.server.counts.requests = s.requests.countP (·.answer.isSome) := by
  rw [← countP_hasEndedAs, ← hs.outcomes, ← hs.outcomes, ← hs.outcomes]
  rfl

end ServerTasks

namespace RunningServer

section

variable {config : Server.Config} {acts : List Event} {s s' : RunningServer} {e : Event}

end

end RunningServer

end IngressProxy

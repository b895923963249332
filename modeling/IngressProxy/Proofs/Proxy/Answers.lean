import IngressProxy.Proofs.Proxy.Tasks
import Mathlib.Tactic.SplitIfs

namespace IngressProxy

open Http

theorem Forward.status_response (r : Response) :
    (response r).status = r.status ∧ (response r).body = r.body := by
  unfold response
  split_ifs <;> exact ⟨rfl, rfl⟩

/-- The certificate that a client is shown is the one that the table has for the name it asked for. -/
theorem Handshake.certificate?_eq_some_iff {t : RoutingTable} {hello : ClientHello} {c : Certificate} :
    certificate? t hello = some c ↔
      ∃ name, hello.serverName = some name ∧ t.certificate name = .ok c := by
  unfold certificate?
  rw [Option.bind_eq_some_iff]
  refine exists_congr fun name => and_congr_right fun _ => ?_
  cases t.certificate name <;> simp

/-- The answer to a request is that of a handler with the table that the request was given. -/
theorem ServerTasks.answer_eq_handle (task : RequestTask) (reply : Option Http.Response) :
    answer task reply =
      Handler.handle task.table (fun _ _ => reply) task.request task.client := by
  unfold answer Handler.handle
  cases Handler.dispatch task.table task.request task.client <;> rfl

namespace RequestTask

/-- What the table that a request was given has for it. -/
def lookup (task : RequestTask) : Except NotFound BackendUrl :=
  task.table.backend (Handler.requestHost task.request) task.request.uri.path

/-- What is sent for a request, and to which backend. -/
def sent (task : RequestTask) : List (BackendUrl × Request) :=
  match Handler.dispatch task.table task.request task.client with
  | .answer _ _ => []
  | .send url r => [(url, r)]

/-- Whether an outcome and a response are right for a request, given what a backend did. The proxy
answers itself, without a backend, exactly where the table has none for the request, and answers itself
after a backend failed exactly where there is one; any other response is that of the backend. -/
structure EndsAs (task : RequestTask) (reply : Option Response) (outcome : Outcome)
    (response : Response) : Prop where
  notFound : outcome = .notFound ↔ ∃ fault, task.lookup = .error fault
  badGateway : outcome = .badGateway ↔ (∃ url, task.lookup = .ok url) ∧ reply = none
  proxied : outcome = .proxied ↔ (∃ url, task.lookup = .ok url) ∧ ∃ r, reply = some r
  unsent : outcome = .notFound →
    task.sent = [] ∧ response = Handler.ownResponse Status.notFound Handler.notFoundBody
  failed : outcome = .badGateway →
    response = Handler.ownResponse Status.badGateway Handler.badGatewayBody
  answered : outcome = .proxied → ∀ r, reply = some r →
    response = Forward.response r ∧ response.status = r.status ∧ response.body = r.body
  sent : ∀ url, task.lookup = .ok url →
    task.sent = [(url, Forward.request url task.request task.client)]

theorem dispatch_of_error {task : RequestTask} {fault : NotFound} (h : task.lookup = .error fault) :
    Handler.dispatch task.table task.request task.client =
      .answer .notFound (Handler.ownResponse Status.notFound Handler.notFoundBody) := by
  rw [lookup] at h
  rw [Handler.dispatch, h]

theorem dispatch_of_ok {task : RequestTask} {url : BackendUrl} (h : task.lookup = .ok url) :
    Handler.dispatch task.table task.request task.client =
      .send url (Forward.request url task.request task.client) := by
  rw [lookup] at h
  rw [Handler.dispatch, h]

theorem endsAs_answer (task : RequestTask) (reply : Option Response) :
    task.EndsAs reply (ServerTasks.answer task reply).1 (ServerTasks.answer task reply).2 := by
  -- The lookup decides whether a backend is asked at all; only then does its reply count.
  cases hlookup : task.lookup with
  | error fault =>
    have hanswer : ServerTasks.answer task reply =
        (.notFound, Handler.ownResponse Status.notFound Handler.notFoundBody) := by
      rw [ServerTasks.answer, dispatch_of_error hlookup]
    have hsent : task.sent = [] := by rw [sent, dispatch_of_error hlookup]
    constructor <;> simp [hanswer, hlookup, hsent]
  | ok url =>
    have hsent : task.sent = [(url, Forward.request url task.request task.client)] := by
      rw [sent, dispatch_of_ok hlookup]
    have hanswer : ServerTasks.answer task reply = Handler.conclude reply := by
      rw [ServerTasks.answer, dispatch_of_ok hlookup]
    cases reply with
    | none => constructor <;> simp [hanswer, hlookup, hsent, Handler.conclude]
    | some r =>
      have hsame := Forward.status_response r
      constructor <;> simp [hanswer, hlookup, hsent, Handler.conclude, hsame]

end RequestTask

end IngressProxy

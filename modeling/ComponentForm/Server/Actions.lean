import ComponentForm.Form.Outcome
import ComponentForm.Server.Exchange

/-! The server that answers triggers. A firing is one request: action, family and kind go into the
query, the chosen values are the body. -/
namespace ComponentForm

structure ActionServer where
  endpoint : Url

namespace ActionServer

def parse (raw : String) : Except TriggerError ActionServer :=
  match Url.parse raw with
  | .ok endpoint => .ok ⟨endpoint⟩
  | .error e => .error (.badEndpoint raw e)

def address (s : ActionServer) (t : Trigger) : Url :=
  ((s.endpoint.addQuery "action" t.action).addQuery "family" t.family).addQuery "type" t.kind.name

def outcomeOf (f : Firing) : Except NoAnswer (Nat × Outline.Bytes) → Except TriggerError Outcome
  | .error reason => .error (.unreachable f.trigger.action reason)
  | .ok (status, body) =>
    if Exchange.isSuccess status then
      (Outcome.ofAnswer f body).mapError (.malformed f.trigger.action)
    else .error (.status f.trigger.action status (Exchange.serverError? body))

/-- What a firing came to: the request it sent, if any, and the outcome. -/
structure Fired where
  sent : Option Request
  result : Except TriggerError Outcome

def fire (net : Network) (s : ActionServer) (f : Firing) : Fired :=
  let exchange := Exchange.send net .post (s.address f.trigger) (Document.object f.body).compact
  ⟨exchange.sent, outcomeOf f exchange.result⟩

end ActionServer
end ComponentForm

import ComponentForm.Form.Basic
import ComponentForm.Server.Exchange

/-! The catalog of forms on a server. A form that was fetched once is kept until it is given up; what
did not come through leaves no trace. -/
namespace ComponentForm

structure Catalog where
  endpoint : Url
  kept : Entries Form

namespace Catalog

def ofEndpoint (endpoint : Url) : Catalog := ⟨endpoint, []⟩

/-- The address of a component: its id is one more segment. -/
def address (endpoint : Url) (id : String) : Except LoadError Url :=
  if endpoint.isOpaque then .error (.badEndpoint endpoint.text .relativeToOpaque)
  else .ok (endpoint.pushId id)

def formOf (id : String) : Except NoAnswer (Nat × Outline.Bytes) → Except LoadError Form
  | .error reason => .error (.unreachable id reason)
  | .ok (status, body) =>
    if Exchange.isSuccess status then
      (Outline.readText Form.read body).mapError (.malformed id)
    else .error (.status id status (Exchange.serverError? body))

/-- What a fetch came to: the request it sent, if any, and the form. -/
structure Fetched where
  sent : Option Request
  result : Except LoadError Form

def fetch (net : Network) (c : Catalog) (id : String) : Fetched × Catalog :=
  match Entries.value? c.kept id with
  | some form => (⟨none, .ok form⟩, c)
  | none =>
    match address c.endpoint id with
    | .error e => (⟨none, .error e⟩, c)
    | .ok url =>
      let exchange := Exchange.send net .get url ""
      match formOf id exchange.result with
      | .ok form => (⟨exchange.sent, .ok form⟩, { c with kept := Entries.put c.kept id form })
      | .error e => (⟨exchange.sent, .error e⟩, c)

def forget (c : Catalog) (id : String) : Bool × Catalog :=
  (Entries.has c.kept id, { c with kept := Entries.remove c.kept id })

end Catalog
end ComponentForm

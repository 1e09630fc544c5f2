import ComponentForm.Server.Failure
import ComponentForm.Url.Parser

/-! Exchanges with a server. The network is a function that answers a request or fails to; a request
that no network can carry is not put to it. -/
namespace ComponentForm

inductive Method
  | get
  | post
deriving DecidableEq, Repr

def Method.name : Method → String
  | .get => "GET"
  | .post => "POST"

structure Request where
  method : Method
  url : Url
  body : String

/-- The address as the server sees it. -/
def Request.address (r : Request) : String :=
  { r.url with fragment := none }.text

inductive Answer
  | reply (status : Nat) (body : Outline.Bytes)
  | failed (causes : List String)

abbrev Network := Request → Answer

namespace Network

def down : Network := fun _ =>
  .failed ["client error (Connect)", "tcp connect error", "Network is unreachable (os error 101)"]

end Network

/-- What came of a request: whether it was sent, and the status and the body of the reply. -/
structure Exchange where
  sent : Option Request
  result : Except NoAnswer (Nat × Outline.Bytes)

namespace Exchange

def isReadable (s : String) : Bool :=
  (String.fromUTF8? (ByteArray.mk (Url.unescape s.toList).toArray)).isSome

/-- The URL without user and password, which travel apart from it; a user without a readable name
stays where it is. -/
def withoutUser (u : Url) : Url :=
  if isReadable u.username && (u.username ≠ "" || u.password.any isReadable) then
    { u with username := "", password := none }
  else u

def carried (u : Url) : Bool :=
  (u.scheme = "http" || u.scheme = "https") && u.host.isSome

def send (net : Network) (method : Method) (u : Url) (body : String) : Exchange :=
  let request : Request := ⟨method, withoutUser u, body⟩
  let address := " for url (" ++ request.url.text ++ ")"
  if carried u then
    match net request with
    | .reply status body => ⟨some request, .ok (status, body)⟩
    | .failed causes => ⟨some request, .error ⟨"error sending request" ++ address, causes⟩⟩
  else ⟨none, .error ⟨"builder error" ++ address, ["URL scheme is not allowed"]⟩⟩

def isSuccess (status : Nat) : Bool := 200 ≤ status ∧ status < 300

/-- The error that a refusing reply carries, where its body holds one. -/
def serverError? (body : Outline.Bytes) : Option ServerError :=
  (Outline.readText ServerError.read body).toOption

end Exchange
end ComponentForm

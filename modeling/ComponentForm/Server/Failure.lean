import ComponentForm.Outline.Read
import ComponentForm.Url.Host

/-! What can go wrong between the program and its servers, and the wording of it: once as a message,
once as advice for the person in front of the program. -/
namespace ComponentForm

/-- The codes of server errors; a code that is not known counts as unexpected. -/
inductive ErrorCode
  | componentMissing
  | actionMissing
  | actionError
  | badFormat
  | unexpected
deriving DecidableEq, Repr

namespace ErrorCode

def name : ErrorCode → String
  | .componentMissing => "COMPONENT_MISSING"
  | .actionMissing => "ACTION_MISSING"
  | .actionError => "ACTION_ERROR"
  | .badFormat => "BAD_FORMAT"
  | .unexpected => "UNEXPECTED"

def label : ErrorCode → String
  | .componentMissing => "ComponentMissing"
  | .actionMissing => "ActionMissing"
  | .actionError => "ActionError"
  | .badFormat => "BadFormat"
  | .unexpected => "Unexpected"

def toDocument (c : ErrorCode) : Document :=
  .string c.name

def known : List (String × ErrorCode) :=
  [.componentMissing, .actionMissing, .actionError, .badFormat].map fun c => (c.name, c)

def read : Outline → Reading ErrorCode :=
  Outline.readName known fun _ => .ok .unexpected

end ErrorCode

structure ServerError where
  code : ErrorCode
  description : String
deriving DecidableEq, Repr

namespace ServerError

def toDocument (e : ServerError) : Document :=
  .object [("code", e.code.toDocument), ("description", .string e.description)]

structure Draft where
  code : Option ErrorCode := none
  description : Option String := none

open Outline in
def fields : List (RecordField Draft) := [
  ⟨"code", false, (·.code.isSome),
    fun d o => (ErrorCode.read o).map fun v => { d with code := some v }⟩,
  ⟨"description", true, (·.description.isSome),
    fun d o => (readString o).map fun v => { d with description := some v }⟩]

open Outline in
def read (o : Outline) : Reading ServerError := do
  let d ← readRecord "struct ApiError" fields {} o
  return ⟨← require "code" d.code, d.description.getD ""⟩

def message (e : ServerError) : String :=
  e.code.label ++ ": " ++ e.description

def remark : Option ServerError → String
  | some e => " (" ++ e.message ++ ")"
  | none => ""

end ServerError

/-- Why no answer came: a message, and the causes behind it from the nearest on. -/
structure NoAnswer where
  message : String
  causes : List String
deriving DecidableEq, Repr

inductive LoadError
  | badEndpoint (url : String) (error : Url.UrlError)
  | unreachable (id : String) (reason : NoAnswer)
  | status (id : String) (status : Nat) (error : Option ServerError)
  | malformed (id : String) (error : ReadError)
deriving DecidableEq, Repr

namespace LoadError

def message : LoadError → String
  | .badEndpoint url e => "invalid component detail endpoint '" ++ url ++ "': " ++ e.message
  | .unreachable id reason =>
    "component server unreachable while loading " ++ id ++ ": " ++ reason.message
  | .status id n e =>
    "loading " ++ id ++ " failed with status " ++ toString n ++ ServerError.remark e
  | .malformed id e => "malformed component detail for " ++ id ++ ": " ++ e.message

def causes : LoadError → List String
  | .badEndpoint _ e => [e.message]
  | .unreachable _ reason => reason.message :: reason.causes
  | .status _ _ _ => []
  | .malformed _ e => [e.message]

def advice : LoadError → String
  | .unreachable _ _ => "Component server unreachable; check the server URL/network and retry."
  | .status id 404 _ => "Component " ++ id ++ " does not exist on this server."
  | .status id n e => "Component server error: " ++ message (.status id n e)
  | .malformed id _ => "Component " ++ id ++ " returned a form this client cannot read."
  | .badEndpoint url e => "Configuration error: " ++ message (.badEndpoint url e)

end LoadError

inductive TriggerError
  | badEndpoint (url : String) (error : Url.UrlError)
  | unreachable (action : String) (reason : NoAnswer)
  | status (action : String) (status : Nat) (error : Option ServerError)
  | malformed (action reason : String)
deriving DecidableEq, Repr

namespace TriggerError

def action? : TriggerError → Option String
  | .badEndpoint _ _ => none
  | .unreachable action _ => some action
  | .status action _ _ => some action
  | .malformed action _ => some action

def message : TriggerError → String
  | .badEndpoint url e => "invalid trigger endpoint '" ++ url ++ "': " ++ e.message
  | .unreachable action reason =>
    "trigger endpoint unreachable for action " ++ action ++ ": " ++ reason.message
  | .status action n e =>
    "trigger action " ++ action ++ " failed with status " ++ toString n ++ ServerError.remark e
  | .malformed action reason =>
    "malformed response for trigger action " ++ action ++ ": " ++ reason

def causes : TriggerError → List String
  | .badEndpoint _ e => [e.message]
  | .unreachable _ reason => reason.message :: reason.causes
  | .status _ _ _ => []
  | .malformed _ _ => []

def advice (field : String) : TriggerError → String
  | .unreachable _ _ =>
    field ++ ": action server unreachable; the form was left unchanged."
  | .status _ _ (some e) => field ++ ": " ++ e.description
  | .status _ n none => field ++ ": action failed with status " ++ toString n ++ "."
  | e => field ++ ": " ++ message e

end TriggerError
end ComponentForm

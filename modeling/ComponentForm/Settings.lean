import ComponentForm.Pane.Viewer
import ComponentForm.Server.Actions
import ComponentForm.Text.Blank
import ComponentForm.Toml.Parser

/-! Settings: defaults, then a settings file where it can be read as a whole, then the environment. -/
namespace ComponentForm

structure Settings where
  server : String
  triggerPath : String
  detailPath : String
  /-- Seconds. -/
  timeout : Nat
  policy : FailurePolicy
deriving DecidableEq, Repr

namespace Settings

def fileName : String := "form.toml"

def default : Settings :=
  ⟨"http://127.0.0.1:8080", "api/v1/application/action", "api/v1/application/detail", 30,
    .keepLoading⟩

structure Overrides where
  server : Option String := none
  triggerPath : Option String := none
  detailPath : Option String := none
  timeout : Option Nat := none
  policy : Option FailurePolicy := none

def override (s : Settings) (o : Overrides) : Settings :=
  ⟨o.server.getD s.server, o.triggerPath.getD s.triggerPath, o.detailPath.getD s.detailPath,
    o.timeout.getD s.timeout, o.policy.getD s.policy⟩

/-- A value under a name that may be missing, but not of another kind. -/
def entry? {α : Type} (t : Toml.Table) (k : String) (read : Toml.Value → Option α) :
    Option (Option α) :=
  match Entries.value? t k with
  | none => some none
  | some v => (read v).map some

def readText : Toml.Value → Option String
  | .string s => some s
  | _ => none

def readSeconds : Toml.Value → Option Nat
  | .integer n => if 0 ≤ n then some n.toNat else none
  | _ => none

/-- A name of a policy, or a table with such a name for an empty table or array. -/
def readPolicy : Toml.Value → Option FailurePolicy
  | .string s => Entries.value? FailurePolicy.known s
  | .inline _ [(k, v)] | .table _ [(k, v)] =>
    match v with
    | .inline _ [] | .table _ [] | .array [] => Entries.value? FailurePolicy.known k
    | _ => none
  | _ => none

def ofTable? (t : Toml.Table) : Option Overrides := do
  return {
    server := ← entry? t "server_url" readText
    triggerPath := ← entry? t "trigger_path" readText
    detailPath := ← entry? t "detail_path" readText
    timeout := ← entry? t "request_timeout_secs" readSeconds
    policy := ← entry? t "load_failure_policy" readPolicy }

/-- What a settings file gives; one that cannot be read gives nothing. -/
def ofFile (bytes : List UInt8) : Overrides :=
  (((String.fromUTF8? (ByteArray.mk bytes.toArray)).bind Toml.parse).bind ofTable?).getD {}

def environmentNames : List String :=
  ["FORM_SERVER_URL", "APP__SERVER_URL", "APP__TRIGGER_PATH", "APP__DETAIL_PATH",
    "APP__REQUEST_TIMEOUT_SECS", "APP__LOAD_FAILURE_POLICY"]

/-- What the environment gives. A value that does not fit is passed over. -/
def ofEnvironment (env : String → Option String) : Overrides where
  server := (env "APP__SERVER_URL").or (env "FORM_SERVER_URL")
  triggerPath := env "APP__TRIGGER_PATH"
  detailPath := env "APP__DETAIL_PATH"
  timeout := (env "APP__REQUEST_TIMEOUT_SECS").bind (Text.readCount? Text.wordLimit)
  policy := (env "APP__LOAD_FAILURE_POLICY").bind fun s =>
    Entries.value? FailurePolicy.known
      (String.ofList ((Text.trim s).toList.map Text.lowerAscii))

def load (file : Option (List UInt8)) (env : String → Option String) : Settings :=
  let s := match file with
    | some bytes => default.override (ofFile bytes)
    | none => default
  s.override (ofEnvironment env)

def endpoint (server path : String) : Except Url.UrlError Url := do
  let base ← Url.parse (if server.toList.getLast? = some '/' then server else server ++ "/")
  Url.join base (String.ofList (path.toList.dropWhile (· = '/')))

def detailEndpoint (s : Settings) : Except Url.UrlError Url :=
  endpoint s.server s.detailPath

def triggerEndpoint (s : Settings) : Except TriggerError ActionServer :=
  match endpoint s.server s.triggerPath with
  | .ok u => .ok ⟨u⟩
  | .error e => .error (.badEndpoint (s.server ++ "/" ++ s.triggerPath) e)

end Settings
end ComponentForm

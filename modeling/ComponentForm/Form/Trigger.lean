import ComponentForm.Outline.Read

/-! Triggers, as layout elements declare them, and the statuses and items that answers to them
carry. -/
namespace ComponentForm

namespace Trigger

/-- What the answer to a trigger is taken for. -/
inductive Kind
  | validation
  | dynamicValues
  | healthcheck
  | update
  | other (name : String)
deriving DecidableEq, Repr

namespace Kind

def name : Kind → String
  | .validation => "validation"
  | .dynamicValues => "dynamic_values"
  | .healthcheck => "healthcheck"
  | .update => "update"
  | .other name => name

def ofName (name : String) : Kind :=
  if name = "validation" then .validation
  else if name = "dynamic_values" then .dynamicValues
  else if name = "healthcheck" then .healthcheck
  else if name = "update" then .update
  else .other name

@[simp] theorem name_ofName (s : String) : (ofName s).name = s := by
  unfold ofName
  split
  · next h => simp [name, h]
  · split
    · next h => simp [name, h]
    · split
      · next h => simp [name, h]
      · split
        · next h => simp [name, h]
        · rfl

def isOther : Kind → Bool
  | .other _ => true
  | _ => false

def toDocument (k : Kind) : Document :=
  .string k.name

def read (o : Outline) : Reading Kind :=
  o.readString.map ofName

end Kind

/-- A key of the request, and the path of the value that is sent under it. -/
structure Parameter where
  key : String
  path : String
deriving DecidableEq, Repr

namespace Parameter

def toDocument (p : Parameter) : Document :=
  .object [("key", .string p.key), ("path", .string p.path)]

structure Draft where
  key : Option String := none
  path : Option String := none

open Outline in
def fields : List (RecordField Draft) := [
  ⟨"key", false, (·.key.isSome), fun d o => (readString o).map fun v => { d with key := some v }⟩,
  ⟨"path", false, (·.path.isSome),
    fun d o => (readString o).map fun v => { d with path := some v }⟩]

open Outline in
def read (o : Outline) : Reading Parameter := do
  let d ← readRecord "struct TriggerParameter" fields {} o
  return ⟨← require "key" d.key, ← require "path" d.path⟩

end Parameter

end Trigger

/-- A trigger: the action it asks the server for, and what is sent along. -/
structure Trigger where
  action : String
  family : String
  kind : Trigger.Kind
  parameters : List Trigger.Parameter
deriving DecidableEq, Repr

namespace Trigger

def toDocument (t : Trigger) : Document :=
  .object [("action", .string t.action), ("family", .string t.family),
    ("type", t.kind.toDocument), ("parameters", .array (t.parameters.map Parameter.toDocument))]

structure Draft where
  action : Option String := none
  family : Option String := none
  kind : Option Kind := none
  parameters : Option (List Parameter) := none

open Outline in
def fields : List (RecordField Draft) := [
  ⟨"action", false, (·.action.isSome),
    fun d o => (readString o).map fun v => { d with action := some v }⟩,
  ⟨"family", false, (·.family.isSome),
    fun d o => (readString o).map fun v => { d with family := some v }⟩,
  ⟨"type", false, (·.kind.isSome), fun d o => (Kind.read o).map fun v => { d with kind := some v }⟩,
  ⟨"parameters", true, (·.parameters.isSome),
    fun d o => (readList Parameter.read o).map fun v => { d with parameters := some v }⟩]

open Outline in
def read (o : Outline) : Reading Trigger := do
  let d ← readRecord "struct TriggerDefinition" fields {} o
  return ⟨← require "action" d.action, ← require "family" d.family, ← require "type" d.kind,
    d.parameters.getD []⟩

def ofDocument? (d : Document) : Option Trigger :=
  (read (.ofDocument d)).toOption

end Trigger

inductive Verdict
  | ok
  | ko
deriving DecidableEq, Repr

namespace Verdict

def name : Verdict → String
  | .ok => "OK"
  | .ko => "KO"

def label : Verdict → String
  | .ok => "Ok"
  | .ko => "Ko"

def toDocument (v : Verdict) : Document :=
  .string v.name

def read : Outline → Reading Verdict :=
  Outline.readKnown [("OK", .ok), ("KO", .ko)]

end Verdict

structure Check where
  verdict : Verdict
  comment : Option String
deriving DecidableEq, Repr

namespace Check

def toDocument (c : Check) : Document :=
  .object (("status", c.verdict.toDocument) ::
    (c.comment.map fun s => ("comment", Document.string s)).toList)

structure Draft where
  verdict : Option Verdict := none
  comment : Option (Option String) := none

open Outline in
def fields : List (RecordField Draft) := [
  ⟨"status", false, (·.verdict.isSome),
    fun d o => (Verdict.read o).map fun v => { d with verdict := some v }⟩,
  ⟨"comment", true, (·.comment.isSome),
    fun d o => (readOption readString o).map fun v => { d with comment := some v }⟩]

open Outline in
/-- Reads a check of the record name given, which only messages show. -/
def read (name : String) (o : Outline) : Reading Check := do
  let d ← readRecord ("struct " ++ name) fields {} o
  return ⟨← require "status" d.verdict, d.comment.join⟩

end Check

/-- A value on offer for a field, with the label it is shown under. -/
structure Choice where
  id : String
  label : Option String
deriving DecidableEq, Repr

namespace Choice

def toDocument (c : Choice) : Document :=
  .object [("id", .string c.id),
    ("label", match c.label with
      | some s => .string s
      | none => .null)]

structure Draft where
  id : Option String := none
  label : Option (Option String) := none

open Outline in
def fields : List (RecordField Draft) := [
  ⟨"id", false, (·.id.isSome), fun d o => (readString o).map fun v => { d with id := some v }⟩,
  ⟨"label", true, (·.label.isSome),
    fun d o => (readOption readString o).map fun v => { d with label := some v }⟩]

open Outline in
def read (o : Outline) : Reading Choice := do
  let d ← readRecord "struct ValueItem" fields {} o
  return ⟨← require "id" d.id, d.label.join⟩

def entry (c : Choice) : Document :=
  .object [("name", .string (c.label.getD c.id)), ("value", .string c.id)]

end Choice

structure Choices where
  items : List Choice
deriving DecidableEq, Repr

namespace Choices

def toDocument (c : Choices) : Document :=
  .object [("items", .array (c.items.map Choice.toDocument))]

open Outline in
def fields : List (RecordField (Option (List Choice))) := [
  ⟨"items", true, (·.isSome), fun _ o => (readList Choice.read o).map some⟩]

open Outline in
def read (o : Outline) : Reading Choices := do
  let d ← readRecord "struct ValuesResponse" fields none o
  return ⟨d.getD []⟩

end Choices

end ComponentForm

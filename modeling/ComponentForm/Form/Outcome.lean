import ComponentForm.Form.Layout

/-! Fired triggers and what comes of them. A firing sends chosen values along; the answer is an
outcome, which a form absorbs. Checks and health reports say something, offers change the layout,
updates change the values, and fragments are left to others. -/
namespace ComponentForm

/-- A trigger fired on a field, with the values the form had then. -/
structure Firing where
  field : String
  trigger : Trigger
  values : Document

/-- The value of each parameter whose path resolves; of one key the last value counts. -/
def Firing.body (f : Firing) : Members :=
  Entries.putAll [] (f.trigger.parameters.filterMap fun p =>
    (f.values.resolve? p.path).map fun v => (p.key, v))

inductive Outcome
  | checked (field : String) (verdict : Verdict) (comment : Option String)
  | offered (field : String) (choices : List Choice)
  | health (verdict : Verdict) (comment : Option String)
  | updated (field : String) (values : Members)
  | fragment (kind : String) (body : Document)

namespace Outcome

def ofAnswer (f : Firing) (body : Outline.Bytes) : Except String Outcome :=
  let reading {α : Type} (read : Outline → Reading α) : Except String α :=
    (Outline.readText read body).mapError ReadError.message
  match f.trigger.kind with
  | .validation =>
    (reading (Check.read "ValidationResponse")).map fun c => .checked f.field c.verdict c.comment
  | .dynamicValues => (reading Choices.read).map fun c => .offered f.field c.items
  | .healthcheck =>
    (reading (Check.read "HealthCheckResponse")).map fun c => .health c.verdict c.comment
  | .update =>
    match reading Outline.readDocument with
    | .error reason => .error reason
    | .ok (.object values) => .ok (.updated f.field values)
    | .ok other => .error ("update response must be an object, got " ++ other.compact)
  | .other kind => (reading Outline.readDocument).map (.fragment kind)

def optionText : Option String → String
  | some s => "Some(" ++ Text.quoted s ++ ")"
  | none => "None"

def choiceText (c : Choice) : String :=
  "ValueItem \x7b id: " ++ Text.quoted c.id ++ ", label: " ++ optionText c.label ++ " \x7d"

def annotated : Outcome → String
  | .checked field verdict comment =>
    "Validation \x7b field: " ++ Text.quoted field ++ ", status: " ++ verdict.label ++
      ", comment: " ++ optionText comment ++ " \x7d"
  | .offered field choices =>
    "DynamicValues \x7b field: " ++ Text.quoted field ++ ", items: [" ++
      Text.join ", " (choices.map choiceText) ++ "] \x7d"
  | .health verdict comment =>
    "Healthcheck \x7b status: " ++ verdict.label ++ ", comment: " ++ optionText comment ++ " \x7d"
  | .updated field values =>
    "Update \x7b field: " ++ Text.quoted field ++ ", values: " ++
      Document.annotatedMembers values ++ " \x7d"
  | .fragment kind body =>
    "Fragment \x7b kind: " ++ Text.quoted kind ++ ", body: " ++ body.annotated ++ " \x7d"

def defaultMessage : String := "invalid value"

end Outcome

/-- Takes an outcome over into the form. Tells whether there was anything to take over, and leaves
the form as the walk did when an update meets an obstruction. -/
def Form.absorb (f : Form) : Outcome → Except MergeError Bool × Form
  | .checked field .ok _ =>
    let (held, f) := f.clearMessage field
    (.ok held, f)
  | .checked field .ko comment =>
    (.ok true, f.setMessage field (comment.getD Outcome.defaultMessage))
  | .offered field choices =>
    match f.putInElement? field "titleMap" (.array (choices.map Choice.entry)) with
    | some f => (.ok true, f)
    | none => (.ok false, f)
  | .updated field values =>
    let (outcome, f) := f.mergeValues field values
    (outcome.map fun _ => true, f)
  | .health _ _ => (.ok false, f)
  | .fragment _ _ => (.ok false, f)

end ComponentForm

import ComponentForm.Form.Outcome
import ComponentForm.Pane.Viewer

/-! A run of the console: it opens a component, fires the triggers that the plan names once the form
is there, takes their outcomes over into a copy of the form, and submits when all are settled.
What it shows goes into a transcript, and what it wants done is an errand for the worker. -/
namespace ComponentForm

structure Plan where
  triggers : List String
  submit : Bool
  /-- Submitted in the place of the values of the form. -/
  values : Option Document
  reopen : Bool

inductive Errand
  | load (ticket : Ticket) (id : String)
  | fire (firing : Firing)

def Errand.name : Errand → String
  | .load _ _ => "load_component"
  | .fire _ => "fire_trigger"

inductive Report
  | note (message : String)
  | stopped (reason : String)
  | loaded (ticket : Ticket) (form : Form)
  | loadFailed (ticket : Ticket) (error : LoadError)
  | resolved (field : String) (outcome : Outcome)
  | failed (field : String) (error : TriggerError)

structure ErrandQueue where
  waiting : List Errand
  capacity : Nat
  /-- Whether the worker still takes errands. -/
  served : Bool

inductive RunError
  | queueFull (errand : String)
  | workerGone
  | workerStopped (reason : String)
  | loadFailed (error : LoadError)
  | unsettled
  | nothingToSubmit
  | submitLost (error : ViewGone)
  | reopenLost (error : ViewGone)

namespace RunError

def message : RunError → String
  | .queueFull errand => "backend command queue is full; " ++ errand ++ " dropped"
  | .workerGone => "backend worker disconnected (possible startup/runtime failure)"
  | .workerStopped reason => reason
  | .loadFailed _ => "component load failed"
  | .unsettled => "backend worker stopped before the form was settled"
  | .nothingToSubmit => "nothing to submit: no form is loaded"
  | .submitLost _ => "failed to submit form"
  | .reopenLost _ => "failed to return to the form"

def causes : RunError → List String
  | .loadFailed e => e.message :: e.causes
  | .submitLost e => [e.message]
  | .reopenLost e => [e.message]
  | _ => []

end RunError

namespace ErrandQueue

def send (q : ErrandQueue) (e : Errand) : Except RunError Unit × ErrandQueue :=
  if !q.served then (.error .workerGone, q)
  else if q.capacity ≤ q.waiting.length then (.error (.queueFull e.name), q)
  else (.ok (), { q with waiting := q.waiting ++ [e] })

end ErrandQueue

structure Runner where
  viewer : Viewer
  changes : ChangeQueue
  errands : ErrandQueue
  /-- The copy of the form that outcomes are taken over into. -/
  working : Option Form
  pending : Nat
  plan : Plan
  transcript : List String

namespace Runner

def new (policy : FailurePolicy) (capacity : Nat) (plan : Plan) : Runner :=
  ⟨.new policy, .new, ⟨[], capacity, true⟩, none, 0, plan, []⟩

def say (r : Runner) (line : String) : Runner :=
  { r with transcript := r.transcript ++ [line] }

def render (r : Runner) : Runner :=
  { r with transcript := r.transcript ++ (Screen.ofPane r.viewer.pane).lines ++ ["---"] }

def order (r : Runner) (e : Errand) : Except RunError Unit × Runner :=
  let (outcome, errands) := r.errands.send e
  (outcome, { r with errands })

/-- Fires one after the other, up to the first that finds no room. -/
def fireAll (r : Runner) : List Firing → Except RunError Unit × Runner
  | [] => (.ok (), r)
  | f :: rest =>
    match r.order (.fire f) with
    | (.error e, r) => (.error e, r)
    | (.ok (), r) => fireAll { r with pending := r.pending + 1 } rest

def firings (form : Form) (fields : List String) : List Firing :=
  fields.flatMap fun field => (form.triggers field).map fun t => ⟨field, t, form.values⟩

def idleLines (form : Form) (fields : List String) : List String :=
  (fields.filter fun field => (form.triggers field).isEmpty).map fun field =>
    field ++ ": no triggers declared"

def firePlanned (r : Runner) : Except RunError Unit × Runner :=
  match r.working with
  | none => (.ok (), r)
  | some form =>
    { r with transcript := r.transcript ++ idleLines form r.plan.triggers }.fireAll
      (firings form r.plan.triggers)

def drain (r : Runner) : Runner :=
  let (_, viewer, changes) := r.viewer.drain r.changes
  { r with viewer, changes }

/-- The values to submit: those of the plan, which serve once, or those of the copy. -/
def submission? (r : Runner) : Option Document :=
  r.plan.values.or (r.working.map Form.values)

def finish (r : Runner) : Except RunError Unit × Runner :=
  if !r.plan.submit then (.ok (), r)
  else match r.submission? with
    | none => (.error .nothingToSubmit, r)
    | some values =>
      let r := { r with plan := { r.plan with values := none } }
      match r.changes.submit values with
      | (.error e, changes) => (.error (.submitLost e), { r with changes })
      | (.ok (), changes) =>
        let r := { r with changes }.drain.render
        if !r.plan.reopen then (.ok (), r)
        else match r.changes.reopen with
          | (.error e, changes) => (.error (.reopenLost e), { r with changes })
          | (.ok (), changes) =>
            let r := { r with changes }.drain
            (.ok (), { r with working := r.viewer.pane.form }.render)

def settle (r : Runner) : Option (Except RunError Unit) × Runner :=
  if r.pending = 0 then
    let (result, r) := r.finish
    (some result, r)
  else (none, r)

/-- Takes the outcome over into the copy, and says so where the copy cannot take it. -/
def absorb (r : Runner) (field : String) (o : Outcome) : Runner :=
  match r.working with
  | none => r
  | some form =>
    match form.absorb o with
    | (.ok _, form) => { r with working := some form }
    | (.error e, form) =>
      { r with working := some form }.say (field ++ ": outcome not applied: " ++ e.message)

def take (r : Runner) : Report → Option (Except RunError Unit) × Runner
  | .note _ => (none, r)
  | .stopped reason => (some (.error (.workerStopped reason)), r)
  | .loaded t form =>
    match r.viewer.complete t form with
    | (false, _) => (none, r)
    | (true, viewer) =>
      match { r with viewer, working := viewer.pane.form }.render.firePlanned with
      | (.error e, r) => (some (.error e), r)
      | (.ok (), r) => r.settle
  | .loadFailed t e =>
    match r.viewer.fail t with
    | (false, _) => (none, r)
    | (true, viewer) =>
      (some (.error (.loadFailed e)), ({ r with viewer }.say e.advice).render)
  | .resolved field o =>
    let r := (r.say (field ++ ": " ++ o.annotated)).absorb field o
    { r with pending := r.pending - 1 }.settle
  | .failed field e =>
    let r := r.say (e.advice field)
    { r with pending := r.pending - 1 }.settle

def start (r : Runner) (id : String) : Except RunError Unit × Runner :=
  let r := r.render
  let (t, viewer) := r.viewer.select id
  { r with viewer }.render.order (.load t id)

/-- Takes reports until the run ends, and gives those that are left over. -/
def follow (r : Runner) : List Report → Except RunError Unit × List Report × Runner
  | [] => (.error .unsettled, [], r)
  | report :: rest =>
    match r.take report with
    | (some result, r) => (result, rest, r)
    | (none, r) => follow r rest

def run (r : Runner) (id : String) (reports : List Report) :
    Except RunError Unit × List Report × Runner :=
  match r.start id with
  | (.error e, r) => (.error e, reports, r)
  | (.ok (), r) => r.follow reports

end Runner
end ComponentForm

import ComponentForm.Form.Basic

/-! The state of the pane that shows a component, and the changes it goes through. A submission needs
a form that is not about to be replaced; a change that the state cannot support is refused and
leaves the state as it is. -/
namespace ComponentForm

structure Pane where
  loading : Bool
  form : Option Form
  submitted : Bool

namespace Pane

def empty : Pane := ⟨false, none, false⟩

instance : Inhabited Pane := ⟨empty⟩

def toDocument (p : Pane) : Document :=
  .object (("is_loading", .bool p.loading) ::
    (p.form.map fun f => ("ui_spec", f.toDocument)).toList ++ [("submitted", .bool p.submitted)])

structure Draft where
  loading : Option Bool := none
  form : Option (Option Form) := none
  submitted : Option Bool := none

open Outline in
def fields : List (RecordField Draft) := [
  ⟨"is_loading", false, (·.loading.isSome),
    fun d o => (readBool o).map fun v => { d with loading := some v }⟩,
  ⟨"ui_spec", true, (·.form.isSome),
    fun d o => (readOption Form.read o).map fun v => { d with form := some v }⟩,
  ⟨"submitted", false, (·.submitted.isSome),
    fun d o => (readBool o).map fun v => { d with submitted := some v }⟩]

open Outline in
def read (o : Outline) : Reading Pane := do
  let d ← readRecord "struct DetailState" fields {} o
  return ⟨← require "is_loading" d.loading, d.form.join, ← require "submitted" d.submitted⟩

def same (p q : Pane) : Bool :=
  p.loading = q.loading && p.submitted = q.submitted &&
    (match p.form, q.form with
      | some f, some g => f.same g
      | none, none => true
      | _, _ => false)

end Pane

inductive Change
  | loadStarted
  | loaded (form : Form)
  | submitted (values : Document)
  | reopened

namespace Change

def name : Change → String
  | .loadStarted => "load_start"
  | .loaded _ => "load_complete"
  | .submitted _ => "submit"
  | .reopened => "back_to_edit"

def toDocument : Change → Document
  | .loadStarted => .object [("type", .string "load_start")]
  | .loaded f => .object [("type", .string "load_complete"), ("payload", f.toDocument)]
  | .submitted values => .object [("type", .string "submit"), ("payload", values)]
  | .reopened => .object [("type", .string "back_to_edit")]

/-- The kinds of change, before their payload is known. -/
inductive Tag
  | loadStarted | loaded | submitted | reopened
deriving DecidableEq, Repr

def Tag.known : List (String × Tag) :=
  [("load_start", .loadStarted), ("load_complete", .loaded), ("submit", .submitted),
    ("back_to_edit", .reopened)]

def Tag.read : Outline → Reading Tag :=
  Outline.readKnown known

/-- The tag at the head of a change that is written as a list. -/
def Tag.readHead : Outline → Reading Tag :=
  Outline.readKnownString known

def readNothing (expected : String) : Outline → Reading Unit
  | .null => .ok ()
  | o => o.refuse expected

def readPayload (o : Outline) : Tag → Reading Change
  | .loadStarted =>
    (readNothing "unit variant DetailAction::LoadStart" o).map fun _ => .loadStarted
  | .loaded => (Form.read o).map .loaded
  | .submitted => o.readDocument.map .submitted
  | .reopened => (readNothing "unit variant DetailAction::BackToEdit" o).map fun _ => .reopened

/-- The change without a payload, where the kind allows it. -/
def bare : Tag → Reading Change
  | .loadStarted => .ok .loadStarted
  | .reopened => .ok .reopened
  | _ => .error (.missingField "payload")

abbrev OutlineMembers := List (Except Fault String × Outline)

/-- The next member that is a tag (true) or a payload, and the members after it; other members are
passed over. -/
def nextRelevant (closing : Closing) :
    OutlineMembers → Reading (Option (Bool × Outline × OutlineMembers))
  | [] => (Outline.lift closing.readObject).map fun _ => none
  | (.error fault, _) :: _ => .error (.fault fault)
  | (.ok k, o) :: rest =>
    if k = "type" then .ok (some (true, o, rest))
    else if k = "payload" then .ok (some (false, o, rest))
    else do
      Outline.lift o.pass
      nextRelevant closing rest

def repeated (isTag : Bool) : ReadError :=
  .repeatedField (if isTag then "type" else "payload")

/-- Makes sure that neither tag nor payload follows. -/
def finish (c : Change) (closing : Closing) (rest : OutlineMembers) : Reading Change := do
  match ← nextRelevant closing rest with
  | none => return c
  | some (isTag, _, _) => throw (repeated isTag)

def expected : String := "adjacently tagged enum DetailAction"

def readTagged (closing : Closing) (members : OutlineMembers) : Reading Change := do
  match ← nextRelevant closing members with
  | none => throw (.missingField "type")
  | some (true, o, rest) =>
    let tag ← Tag.read o
    match ← nextRelevant closing rest with
    | none => bare tag
    | some (true, _, _) => throw (repeated true)
    | some (false, o, rest) => finish (← readPayload o tag) closing rest
  | some (false, payload, rest) =>
    let _ ← payload.readDocument
    match ← nextRelevant closing rest with
    | none => throw (.missingField "type")
    | some (false, _, _) => throw (repeated false)
    | some (true, o, rest) => finish (← readPayload payload (← Tag.read o)) closing rest

/-- A change is an object with its kind and its payload in either order, or a list of the two. -/
def read : Outline → Reading Change
  | .object members closing => readTagged closing members
  | .array [] closing => do
    Outline.lift closing.readList
    throw (.wrongLength 0 expected)
  | .array (o :: rest) closing => do
    let tag ← Tag.readHead o
    match rest with
    | [] =>
      Outline.lift closing.readList
      throw (.wrongLength 1 expected)
    | [o] =>
      let c ← readPayload o tag
      Outline.lift closing.finishList
      return c
    | o :: _ =>
      let _ ← readPayload o tag
      throw (.fault .trailingCharacters)
  | o => o.refuse expected

end Change

inductive Refusal
  | submitWithoutForm
  | submitWhileLoading
deriving DecidableEq, Repr

def Refusal.message : Refusal → String
  | .submitWithoutForm => "submit dispatched with no component specification loaded"
  | .submitWhileLoading => "submit dispatched while the component specification is loading"

namespace Pane

def refusal? (p : Pane) : Change → Option Refusal
  | .submitted _ =>
    if p.form.isNone then some .submitWithoutForm
    else if p.loading then some .submitWhileLoading
    else none
  | _ => none

def changed (p : Pane) : Change → Pane
  | .loadStarted => { p with loading := true }
  | .loaded f => ⟨false, some f, false⟩
  | .submitted values => { p with form := p.form.map (·.withValues values), submitted := true }
  | .reopened => { p with submitted := false }

def after (p : Pane) (c : Change) : Pane :=
  match p.refusal? c with
  | some _ => p
  | none => p.changed c

@[simp] theorem after_loadStarted (p : Pane) : p.after .loadStarted = { p with loading := true } := rfl

@[simp] theorem after_loaded (p : Pane) (f : Form) : p.after (.loaded f) = ⟨false, some f, false⟩ := rfl

@[simp] theorem after_reopened (p : Pane) : p.after .reopened = { p with submitted := false } := rfl

/-- A submission counts only on a form that stands. -/
theorem after_submitted (p : Pane) (values : Document) :
    p.after (.submitted values) =
      if p.form.isSome ∧ p.loading = false then
        { p with form := p.form.map (·.withValues values), submitted := true }
      else p := by
  obtain ⟨loading, form, submitted⟩ := p
  cases form <;> cases loading <;> rfl

end Pane
end ComponentForm

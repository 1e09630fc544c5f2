import ComponentForm.Pane.Screen
import ComponentForm.Server.Failure

/-! The viewer of components: it holds the pane of the selected component. Every selection gets a
ticket, and what arrives later is taken only on the ticket of the selection that stands. -/
namespace ComponentForm

/-- Names one load among all loads of a viewer. -/
structure Ticket where
  number : Nat
deriving DecidableEq, Repr

/-- What a failed load does to the selection. -/
inductive FailurePolicy
  | keepLoading
  | resetSelection
deriving DecidableEq, Repr

namespace FailurePolicy

def name : FailurePolicy → String
  | .keepLoading => "stay_loading"
  | .resetSelection => "reset_selection"

def known : List (String × FailurePolicy) :=
  [.keepLoading, .resetSelection].map fun p => (p.name, p)

def toDocument (p : FailurePolicy) : Document :=
  .string p.name

def read : Outline → Reading FailurePolicy :=
  Outline.readKnown known

end FailurePolicy

structure Viewer where
  pane : Pane
  current : Option (String × Ticket)
  issued : Nat
  policy : FailurePolicy

namespace Viewer

def new (policy : FailurePolicy) : Viewer :=
  ⟨.empty, none, 0, policy⟩

def selected? (v : Viewer) : Option String :=
  v.current.map Prod.fst

def apply (v : Viewer) (c : Change) : Viewer :=
  { v with pane := v.pane.after c }

def applyAll (v : Viewer) (cs : List Change) : Viewer :=
  cs.foldl apply v

/-- Selects a component. Another component starts with an empty pane; the same one keeps what it
shows until the new form is there. -/
def select (v : Viewer) (id : String) : Ticket × Viewer :=
  let pane := match v.selected? with
    | some other => if other = id then v.pane else .empty
    | none => v.pane
  let ticket : Ticket := ⟨v.issued + 1⟩
  (ticket, { v with pane := pane.after .loadStarted, current := some (id, ticket),
                    issued := v.issued + 1 })

def awaits (v : Viewer) (t : Ticket) : Bool :=
  match v.current with
  | some (_, current) => current = t
  | none => false

theorem awaits_iff (v : Viewer) (t : Ticket) :
    v.awaits t = true ↔ v.current.map Prod.snd = some t := by
  unfold awaits
  cases v.current <;> simp

@[simp] theorem selected?_select (v : Viewer) (id : String) :
    (v.select id).2.selected? = some id := rfl

@[simp] theorem issued_select (v : Viewer) (id : String) :
    (v.select id).2.issued = v.issued + 1 := rfl

theorem pane_select_of_none {v : Viewer} (h : v.selected? = none) (id : String) :
    (v.select id).2.pane = { v.pane with loading := true } := by
  simp [select, h]

theorem pane_select_of_selected {v : Viewer} {id : String} (h : v.selected? = some id) :
    (v.select id).2.pane = { v.pane with loading := true } := by
  simp [select, h]

theorem pane_select_of_ne {v : Viewer} {id other : String} (h : v.selected? = some other)
    (hne : other ≠ id) : (v.select id).2.pane = { Pane.empty with loading := true } := by
  simp [select, h, hne]

theorem awaits_select (v : Viewer) (id : String) (t : Ticket) :
    (v.select id).2.awaits t = true ↔ t = (v.select id).1 := by
  rw [awaits_iff]
  exact ⟨fun h => (Option.some.inj h).symm, fun h => congrArg some h.symm⟩

def clear (v : Viewer) : Viewer :=
  { v with pane := .empty, current := none }

/-- Takes a loaded form, and tells whether it was awaited. -/
def complete (v : Viewer) (t : Ticket) (f : Form) : Bool × Viewer :=
  if v.awaits t then (true, v.apply (.loaded f)) else (false, v)

def fail (v : Viewer) (t : Ticket) : Bool × Viewer :=
  if v.awaits t then
    (true, match v.policy with
      | .resetSelection => v.clear
      | .keepLoading => v)
  else (false, v)

theorem complete_of_awaits {v : Viewer} {t : Ticket} (h : v.awaits t = true) (f : Form) :
    v.complete t f = (true, v.apply (.loaded f)) := by
  simp [complete, h]

theorem complete_of_not_awaits {v : Viewer} {t : Ticket} (h : v.awaits t = false) (f : Form) :
    v.complete t f = (false, v) := by
  simp [complete, h]

theorem fail_of_awaits {v : Viewer} {t : Ticket} (h : v.awaits t = true) :
    v.fail t = (true, match v.policy with
      | .resetSelection => v.clear
      | .keepLoading => v) := by
  simp [fail, h]

theorem fail_of_not_awaits {v : Viewer} {t : Ticket} (h : v.awaits t = false) :
    v.fail t = (false, v) := by
  simp [fail, h]

theorem complete_cases (v : Viewer) (t : Ticket) (f : Form) :
    (v.complete t f).2 = v ∨ (v.complete t f).2 = v.apply (.loaded f) := by
  cases h : v.awaits t with
  | false => exact Or.inl (by rw [complete_of_not_awaits h])
  | true => exact Or.inr (by rw [complete_of_awaits h])

theorem fail_cases (v : Viewer) (t : Ticket) :
    (v.fail t).2 = v ∨ (v.fail t).2 = v.clear := by
  cases h : v.awaits t with
  | false => exact Or.inl (by rw [fail_of_not_awaits h])
  | true =>
    rw [fail_of_awaits h]
    cases v.policy with
    | resetSelection => exact Or.inr rfl
    | keepLoading => exact Or.inl rfl

@[simp] theorem complete_fst (v : Viewer) (t : Ticket) (f : Form) :
    (v.complete t f).1 = v.awaits t := by
  cases h : v.awaits t <;> simp [complete, h]

@[simp] theorem fail_fst (v : Viewer) (t : Ticket) : (v.fail t).1 = v.awaits t := by
  cases h : v.awaits t <;> simp [fail, h]

/-- Changes reach the pane only. -/
theorem applyAll_eq (v : Viewer) (cs : List Change) :
    v.applyAll cs = { v with pane := cs.foldl Pane.after v.pane } := by
  unfold applyAll
  induction cs generalizing v with
  | nil => rfl
  | cons c cs ih => simp only [List.foldl_cons, ih, apply]

/-- Selects a component and takes what the source has for it. -/
def load (v : Viewer) (source : String → Except LoadError Form) (id : String) :
    Except LoadError Unit × Viewer :=
  let (t, v) := v.select id
  match source id with
  | .ok f => (.ok (), (v.complete t f).2)
  | .error e => (.error e, (v.fail t).2)

end Viewer

/-- A change was not delivered, since nobody waits for changes any more. -/
structure ViewGone where
  change : String
deriving DecidableEq, Repr

def ViewGone.message (e : ViewGone) : String :=
  "detail view is gone; " ++ e.change ++ " was not delivered"

/-- The changes that the form on display has asked for. -/
structure ChangeQueue where
  waiting : List Change
  watched : Bool

namespace ChangeQueue

def new : ChangeQueue := ⟨[], true⟩

def close (_q : ChangeQueue) : ChangeQueue := ⟨[], false⟩

def send (q : ChangeQueue) (c : Change) : Except ViewGone Unit × ChangeQueue :=
  if q.watched then (.ok (), { q with waiting := q.waiting ++ [c] }) else (.error ⟨c.name⟩, q)

def submit (q : ChangeQueue) (values : Document) : Except ViewGone Unit × ChangeQueue :=
  q.send (.submitted values)

def reopen (q : ChangeQueue) : Except ViewGone Unit × ChangeQueue :=
  q.send .reopened

end ChangeQueue

/-- Applies every waiting change, and counts them. -/
def Viewer.drain (v : Viewer) (q : ChangeQueue) : Nat × Viewer × ChangeQueue :=
  (q.waiting.length, v.applyAll q.waiting, { q with waiting := [] })

end ComponentForm

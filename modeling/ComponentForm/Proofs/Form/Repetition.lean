import ComponentForm.Proofs.Document.Step
import ComponentForm.Proofs.Form.Answers
import ComponentForm.Proofs.Form.Structure

/-! Outcomes that come twice. The second meets a form that the first has changed, but it is led to the
same place there: a walk to the objects that the first one opened, an offer to the element that the
search finds again. What it would bring is there by then, so that it leaves the form as it is. -/
namespace ComponentForm

/-- What is told of an outcome that comes again, if the answer to the first was the given one: only a
check that passes finds nothing left to do. -/
def Outcome.toldAgain : Outcome → Bool → Bool
  | .checked _ .ok _, _ => false
  | _, told => told

namespace Document

theorem walk_again_of_ok {values : Members} {d : Document} {route : List String}
    (h : (walk values d route).1 = .ok ()) :
    walk values (walk values d route).2 route = (.ok (), (walk values d route).2) := by
  induction route generalizing d with
  | nil =>
    cases d with
    | null => exact congrArg (Prod.mk _ ∘ object) (Entries.putAll_putAll_self [] values)
    | object ms => exact congrArg (Prod.mk _ ∘ object) (Entries.putAll_putAll_self ms values)
    | _ => cases h
  | cons segment rest ih =>
    have htakes := takes_of_walk_ok h
    rw [walk_of_takes htakes, walk_of_takes (takes_withChild htakes _), childAt_withChild htakes,
      ih (walk_childAt_ok h), withChild_withChild htakes]

/-- A second walk ends as the first one did, and leaves what that one left. -/
theorem walk_again (values : Members) (d : Document) (route : List String) :
    walk values (walk values d route).2 route = walk values d route := by
  cases h : (walk values d route).1 with
  | ok u => exact (walk_again_of_ok h).trans (Prod.ext h.symm rfl)
  | error e => rw [walk_snd_of_error h]

theorem mergeAt_again (d : Document) (path : String) (values : Members) :
    (d.mergeAt path values).2.mergeAt path values = d.mergeAt path values := by
  simp only [mergeAt, walk_again]

theorem editAt_editAt (first second : Members → Members) (p : Place) (d : Document) :
    editAt second p (editAt first p d) = editAt (second ∘ first) p d := by
  induction p generalizing d with
  | nil => cases d <;> rfl
  | cons step p ih =>
    have hstep : editAt second p ∘ editAt first p = editAt (second ∘ first) p := funext ih
    cases step with
    | item i =>
      cases d with
      | array xs => simp only [editAt, List.modify_modify_eq, hstep]
      | _ => rfl
    | items =>
      cases d with
      | object ms => simp only [editAt, Entries.modify_modify, hstep]
      | _ => rfl

theorem editElement?_put_again {k : String} (hkey : k ≠ "key") (hitems : k ≠ "items") {field : String}
    {v : Document} {d e : Document} (h : editElement? field (·.put k v) d = some e) :
    editElement? field (·.put k v) e = some e := by
  rw [editElement?_eq, Option.map_eq_some_iff] at h
  obtain ⟨c, hc, rfl⟩ := h
  have hsight := (sight_editAt (v := v) hitems c.place d).symm
  obtain ⟨c', hc', hplace⟩ := exists_candidate?_of_sight hkey hsight hc
  have hput : (fun ms => Entries.put ms k v) ∘ (fun ms => Entries.put ms k v) =
      fun ms => Entries.put ms k v := funext fun ms => Entries.put_put_self ms k v v
  rw [editElement?_eq, hc', Option.map_some, hplace, editAt_editAt, hput]

end Document

namespace Form
variable {f : Form}

theorem absorb_passed_again (hf : (Entries.names f.messageMembers).Nodup) (field : String)
    (comment : Option String) :
    let g := (f.absorb (.checked field .ok comment)).2
    g.absorb (.checked field .ok comment) = (.ok false, g) := by
  intro g
  have hmembers : g.messageMembers = Entries.remove f.messageMembers field := by
    rw [show g = _ from congrArg Prod.snd (absorb_checked_ok f field comment),
      messageMembers_withoutMessage]
  have hcleared : (g.clearMessage field).1 = false := by
    have htold := congrArg Prod.fst (absorb_checked_ok g field comment)
    rw [hmembers, Entries.has, Entries.value?_remove_self hf] at htold
    exact Except.ok.inj htold
  change (Except.ok (g.clearMessage field).1, (g.clearMessage field).2) = _
  rw [hcleared, clearMessage_of_false hcleared]

theorem absorb_failed_again (f : Form) (field : String) (comment : Option String) :
    let g := (f.absorb (.checked field .ko comment)).2
    g.absorb (.checked field .ko comment) = (.ok true, g) := by
  intro g
  simp only [g, absorb_checked_ko, messageMembers_some, Entries.put_put_self]

theorem absorb_offered_again (f : Form) (field : String) (choices : List Choice) :
    let once := f.absorb (.offered field choices)
    once.2.absorb (.offered field choices) = once := by
  intro once
  cases hedit : Document.editElement? field (·.put "titleMap" (.array (choices.map Choice.entry)))
      f.layout with
  | none =>
    have honce : once = (.ok false, f) := by
      simp only [once, absorb_offered, tried, hedit]
      rfl
    rw [honce]
    exact honce
  | some layout =>
    have hagain := Document.editElement?_put_again (by decide) (by decide) hedit
    simp only [once, absorb_offered, tried, hedit, Option.getD_some, hagain]

theorem absorb_updated_again (f : Form) (path : String) (values : Members) :
    let once := f.absorb (.updated path values)
    once.2.absorb (.updated path values) = once := by
  intro once
  simp only [once, absorb_updated, values_withValues, withValues_withValues, Document.mergeAt_again]

/-- An outcome that comes twice makes no more of a form than one that comes once, down to the order of
members, and if it was refused it is refused again, for the same reason. -/
theorem repeated_outcome_changes_nothing (hf : (Entries.names f.messageMembers).Nodup) (o : Outcome) :
    let once := f.absorb o
    once.2.absorb o = (once.1.map o.toldAgain, once.2) := by
  intro once
  cases o with
  | checked field verdict comment =>
    cases verdict with
    | ok => exact absorb_passed_again hf field comment
    | ko => exact absorb_failed_again f field comment
  | offered field choices =>
    rw [show once.2.absorb _ = once from absorb_offered_again f field choices]
    exact Prod.ext (congrFun Except.map_id once.1).symm rfl
  | updated path values =>
    rw [show once.2.absorb _ = once from absorb_updated_again f path values]
    exact Prod.ext (congrFun Except.map_id once.1).symm rfl
  | health verdict comment => rfl
  | fragment kind body => rfl

/-- Only the first of two checks that pass has a message to clear. -/
theorem second_pass_finds_no_message :
    let f : Form := { (default : Form) with
      messages := some (.object [("a", .string "bad"), ("b", .string "worse")]) }
    let o : Outcome := .checked "a" .ok none
    (Entries.names f.messageMembers).Nodup ∧ (f.absorb o).1 = .ok true ∧
      (f.absorb o).2.absorb o = (.ok false, (f.absorb o).2) := by
  intro f o
  have hf : (Entries.names f.messageMembers).Nodup := by decide
  exact ⟨hf, rfl, repeated_outcome_changes_nothing hf o⟩

end Form
end ComponentForm

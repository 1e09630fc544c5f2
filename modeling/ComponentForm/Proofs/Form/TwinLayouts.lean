import ComponentForm.Proofs.Document.Twins

/-! Two searches through twin layouts. A search goes by the names of members and by the order of items, and
twins agree in both. So it visits the same places in the one as in the other, stops at the same, and
what it finds there are twins. -/
namespace ComponentForm

namespace Document

variable {r : Document → Document → Prop} {d e : Document} {ms ns : Members} {field : String}

structure Candidate.Twins (r : Document → Document → Prop) (c c' : Candidate) : Prop where
  place : c.place = c'.place
  members : Document.Twins r (.object c.members) (.object c'.members)

theorem Candidate.Twins.under {c c' : Candidate} (step : Step) (h : Candidate.Twins r c c') :
    Candidate.Twins r (c.under step) (c'.under step) :=
  ⟨congrArg (step :: ·) h.place, h.members⟩

theorem Candidate.Twins.next {c c' : Candidate} (h : Candidate.Twins r c c') :
    Candidate.Twins r c.next c'.next :=
  ⟨congrArg Place.next h.place, h.members⟩

namespace Twins

section Keys
variable (hr : Orderless r)
include hr

theorem asString? (h : Twins r d e) : d.asString? = e.asString? := by
  cases h.matched hr <;> rfl

theorem mapM_asString? {xs ys : List Document} (h : List.Forall₂ (Twins r) xs ys) :
    xs.mapM Document.asString? = ys.mapM Document.asString? := by
  induction h with
  | nil => rfl
  | cons hxy _ ih => rw [List.mapM_cons, List.mapM_cons, hxy.asString? hr, ih]

theorem designates (h : Twins r d e) (field : String) : d.designates field = e.designates field := by
  cases h.matched hr with
  | array hitems => rw [Document.designates, Document.designates, mapM_asString? hr hitems]
  | _ => rfl

theorem member? (h : Twins r d e) (k : String) :
    Option.Rel (Twins r) (d.member? k) (e.member? k) := by
  cases h.matched hr with
  | object hagree => exact hagree k
  | _ => exact .none

theorem value? (h : Twins r (.object ms) (.object ns)) (k : String) :
    Option.Rel (Twins r) (Entries.value? ms k) (Entries.value? ns k) :=
  ((object_iff hr).mp h).2.2 k

theorem isElement (h : Twins r (.object ms) (.object ns)) (field : String) :
    Document.isElement field ms = Document.isElement field ns := by
  have hkey := h.value? hr "key"
  rw [Document.isElement, Document.isElement]
  cases hk : Entries.value? ms "key" with
  | none =>
    rw [hk] at hkey
    rw [eq_none_of_rel_none hkey]
  | some key =>
    rw [hk] at hkey
    obtain ⟨key', hk', htwins⟩ := exists_of_rel_some hkey
    rw [hk']
    exact htwins.designates hr field

end Keys

mutual
theorem candidates (hr : Orderless r) (d : Document) {e : Document} (h : Twins r d e) :
    List.Forall₂ (Candidate.Twins r) d.candidates e.candidates := by
  cases d with
  | array xs =>
    cases h.matched hr with
    | array hitems => exact candidatesAmong hr xs hitems
  | object ms =>
    cases h.matched hr with
    | object hagree =>
      have hunder := candidatesUnder hr ms (hagree "items")
      rw [← candidatesUnder_eq] at hunder
      exact .cons ⟨rfl, h⟩ (List.rel_map (fun _ _ hc => Candidate.Twins.under .items hc) hunder)
  | null => cases h.matched hr; exact .nil
  | bool v => cases h.matched hr; exact .nil
  | number n => cases h.matched hr; exact .nil
  | string s => cases h.matched hr; exact .nil

theorem candidatesAmong (hr : Orderless r) (xs : List Document) {ys : List Document}
    (h : List.Forall₂ (Twins r) xs ys) :
    List.Forall₂ (Candidate.Twins r) (Document.candidatesAmong xs) (Document.candidatesAmong ys) := by
  cases xs with
  | nil => cases h; exact .nil
  | cons x xs =>
    cases h with
    | cons hxy hrest =>
      have hfirst := candidates hr x hxy
      have hlater := candidatesAmong hr xs hrest
      exact List.rel_append (List.rel_map (fun _ _ hc => Candidate.Twins.under (.item 0) hc) hfirst)
        (List.rel_map (fun _ _ hc => Candidate.Twins.next hc) hlater)

theorem candidatesUnder (hr : Orderless r) (ms : List (String × Document)) {found : Option Document}
    (h : Option.Rel (Twins r) (Entries.value? ms "items") found) :
    List.Forall₂ (Candidate.Twins r) (Document.candidatesUnder ms)
      ((found.map Document.candidates).getD []) := by
  cases ms with
  | nil =>
    rw [eq_none_of_rel_none h]
    exact .nil
  | cons m rest =>
    obtain ⟨name, v⟩ := m
    rw [Entries.value?_cons] at h
    rw [Document.candidatesUnder]
    by_cases hname : name = "items"
    · rw [if_pos hname] at h ⊢
      obtain ⟨w, rfl, hvw⟩ := exists_of_rel_some h
      exact candidates hr v hvw
    · rw [if_neg hname] at h ⊢
      exact candidatesUnder hr rest h
end

section Search
variable (hr : Orderless r)
include hr

/-- The search for a field stops at the same place in twins, and finds twins there. -/
theorem candidate? (h : Twins r d e) (field : String) :
    Option.Rel (Candidate.Twins r) (d.candidate? field) (e.candidate? field) :=
  rel_find? (fun _ _ hc => hc.members.isElement hr field) (candidates hr d h)

theorem element? (h : Twins r d e) (field : String) :
    Option.Rel (fun ms ns => Twins r (.object ms) (.object ns)) (d.element? field)
      (e.element? field) := by
  rw [element?_eq, element?_eq]
  exact rel_map (h.candidate? hr field) fun _ _ hc => hc.members

section Edit
variable {edit : Members → Members}
  (hedit : ∀ ms ns, Twins r (.object ms) (.object ns) → Twins r (.object (edit ms)) (.object (edit ns)))
include hedit

theorem editAt (h : Twins r d e) (p : Place) :
    Twins r (Document.editAt edit p d) (Document.editAt edit p e) := by
  induction p generalizing d e with
  | nil =>
    cases h.matched hr with
    | object hagree => exact hedit _ _ h
    | _ => exact h
  | cons step p ih =>
    cases step with
    | item i =>
      cases h.matched hr with
      | array hitems => exact .array hr (forall₂_modify hitems (fun _ _ hxy => ih hxy) i)
      | _ => exact h
    | items =>
      cases h.matched hr with
      | object hagree => exact h.modify hr (fun _ _ hvw => ih hvw) "items"
      | _ => exact h

theorem editElement? (h : Twins r d e) (field : String) :
    Option.Rel (Twins r) (d.editElement? field edit) (e.editElement? field edit) := by
  rw [editElement?_eq, editElement?_eq]
  refine rel_map (h.candidate? hr field) fun c c' hc => ?_
  rw [hc.place]
  exact h.editAt hr hedit _

end Edit
end Search
end Twins
end Document
end ComponentForm

import ComponentForm.Proofs.Document.Twins
import ComponentForm.Proofs.Outline.Documents
import Mathlib.Data.List.Nodup
import Mathlib.Data.List.Pairwise

/-! Records read from twins. A record takes its fields out of the members of an object one after the
other, and stops at the first that it cannot read. Fields that keep apart in the draft may come in any
order, so that twins make the same record, or none of them makes one; which problem is met first is
another matter. -/
namespace ComponentForm

theorem toOption_map {ε α β : Type} (f : α → β) (e : Except ε α) :
    (e.map f).toOption = e.toOption.map f := by
  cases e <;> rfl

theorem toOption_bind {ε α β : Type} (e : Except ε α) (f : α → Except ε β) :
    (e >>= f).toOption = e.toOption.bind fun a => (f a).toOption := by
  cases e <;> rfl

namespace Outline

open Document

theorem toOption_refuse {α : Type} (o : Outline) (expected : String) :
    (o.refuse expected : Reading α).toOption = none := by
  rw [refuse]
  cases o.found <;> rfl

mutual
theorem pass_ofDocument (d : Document) : (ofDocument d).pass = .ok () := by
  cases d with
  | array xs => exact passItems_ofItems xs
  | object ms => exact passMembers_ofMembers ms
  | null => rfl
  | bool v => rfl
  | number n => rfl
  | string s => rfl

theorem passItems_ofItems (xs : List Document) : passItems .closed (ofItems xs) = .ok () := by
  cases xs with
  | nil => rfl
  | cons x xs => rw [ofItems, passItems, pass_ofDocument x, passItems_ofItems xs]

theorem passMembers_ofMembers (ms : List (String × Document)) :
    passMembers .closed (ofMembers ms) = .ok () := by
  cases ms with
  | nil => rfl
  | cons e ms => rw [ofMembers, passMembers, pass_ofDocument e.2, passMembers_ofMembers ms]
end

section Fields
variable {δ : Type} {fields : List (RecordField δ)}

def RecordField.take? (f : RecordField δ) (draft : δ) (d : Document) : Option δ :=
  if f.held draft then none else (f.read draft (ofDocument d)).toOption

/-- It does not matter which of the two fields comes first. -/
def RecordField.Apart (f g : RecordField δ) : Prop :=
  ∀ draft d e, ((f.take? draft d).bind fun draft => g.take? draft e) =
    (g.take? draft e).bind fun draft => f.take? draft d

def takeMember? (fields : List (RecordField δ)) (draft : Option δ) (m : String × Document) : Option δ :=
  draft.bind fun draft =>
    match fields.find? fun f => f.name = m.1 with
    | some f => f.take? draft m.2
    | none => some draft

theorem foldl_takeMember?_none (ms : Members) : ms.foldl (takeMember? fields) none = none := by
  induction ms with
  | nil => rfl
  | cons m ms ih => exact ih

/-- As far as it succeeds, the reader takes in one member after the other. -/
theorem toOption_readFields (draft : δ) (ms : Members) :
    (readFields fields passField .closed draft (ofMembers ms)).toOption =
      ms.foldl (takeMember? fields) (some draft) := by
  induction ms generalizing draft with
  | nil => rfl
  | cons m ms ih =>
    obtain ⟨k, v⟩ := m
    rw [ofMembers, readFields, List.foldl_cons, takeMember?, Option.bind_some]
    cases hfind : fields.find? fun f => f.name = k with
    | none =>
      simp only [passField, pass_ofDocument]
      exact ih draft
    | some f =>
      simp only [RecordField.take?]
      cases f.held draft with
      | true => exact (foldl_takeMember?_none ms).symm
      | false =>
        cases hread : f.read draft (ofDocument v) with
        | error e => exact (foldl_takeMember?_none ms).symm
        | ok draft' => exact ih draft'

instance : Std.Symm (@RecordField.Apart δ) := ⟨fun _ _ h draft d e => (h draft e d).symm⟩

theorem takeMember?_comm (hapart : fields.Pairwise RecordField.Apart) {m m' : String × Document}
    (hne : m.1 ≠ m'.1) (draft : Option δ) :
    takeMember? fields (takeMember? fields draft m) m' =
      takeMember? fields (takeMember? fields draft m') m := by
  cases draft with
  | none => rfl
  | some draft =>
    simp only [takeMember?, Option.bind_some]
    cases hf : fields.find? fun f => f.name = m.1 with
    | none => simp
    | some f =>
      cases hg : fields.find? fun f => f.name = m'.1 with
      | none => simp
      | some g =>
        have hfname : f.name = m.1 := by simpa using List.find?_some hf
        have hgname : g.name = m'.1 := by simpa using List.find?_some hg
        have hfg : f ≠ g := fun h => hne (hfname.symm.trans ((congrArg _ h).trans hgname))
        exact hapart.forall (List.mem_of_find?_eq_some hf) (List.mem_of_find?_eq_some hg) hfg draft _ _

theorem foldl_takeMember?_perm (hapart : fields.Pairwise RecordField.Apart) {ms ns : Members}
    (hnames : (Entries.names ms).Nodup) (hperm : ms.Perm ns) (draft : Option δ) :
    ms.foldl (takeMember? fields) draft = ns.foldl (takeMember? fields) draft := by
  refine hperm.foldl_eq' (fun m hm m' hm' draft => ?_) draft
  by_cases hne : m.1 = m'.1
  · have heq : m = m' := List.inj_on_of_nodup_map hnames hm hm' hne
    rw [heq]
  · exact takeMember?_comm hapart hne draft

theorem apart_of_slots {α β : Type} {name name' : String} {optional optional' : Bool}
    {slot : δ → Option α} {slot' : δ → Option β} {read : Outline → Reading α}
    {read' : Outline → Reading β} {fill : δ → α → δ} {fill' : δ → β → δ}
    (hslot : ∀ draft b, slot (fill' draft b) = slot draft)
    (hslot' : ∀ draft a, slot' (fill draft a) = slot' draft)
    (hfill : ∀ draft a b, fill' (fill draft a) b = fill (fill' draft b) a) :
    RecordField.Apart
      ⟨name, optional, fun draft => (slot draft).isSome, fun draft o => (read o).map (fill draft)⟩
      ⟨name', optional', fun draft => (slot' draft).isSome,
        fun draft o => (read' o).map (fill' draft)⟩ := by
  intro draft d e
  simp only [RecordField.take?, toOption_map]
  cases (read (ofDocument d)).toOption <;> cases (read' (ofDocument e)).toOption <;>
    cases hheld : (slot draft).isSome <;> cases hheld' : (slot' draft).isSome <;>
      simp [hslot, hslot', hfill, hheld, hheld']

end Fields

section Impartial
variable {r : Document → Document → Prop} {α β : Type}

/-- What the reader makes of a document it makes of every twin of it. -/
def Impartial (r : Document → Document → Prop) (read : Outline → Reading α) : Prop :=
  ∀ d e, Twins r d e → (read (ofDocument d)).toOption = (read (ofDocument e)).toOption

namespace Impartial
variable {read : Outline → Reading α}

theorem map (h : Impartial r read) (f : α → β) : Impartial r fun o => (read o).map f := by
  intro d e hde
  simp only [toOption_map, h d e hde]

theorem bind (h : Impartial r read) (f : α → Reading β) : Impartial r fun o => read o >>= f := by
  intro d e hde
  simp only [toOption_bind, h d e hde]

theorem items (h : Impartial r read) {xs ys : List Document} (hitems : List.Forall₂ (Twins r) xs ys) :
    (readItems read .closed (ofItems xs)).toOption = (readItems read .closed (ofItems ys)).toOption := by
  induction hitems with
  | nil => rfl
  | cons hxy _ ih => simp only [ofItems, readItems, toOption_bind, h _ _ hxy, ih]

variable (hr : Orderless r)
include hr

theorem string : Impartial r readString := by
  intro d e hde
  cases hde.matched hr with
  | string s => rfl
  | _ => simp only [ofDocument, readString, toOption_refuse]

theorem list (h : Impartial r read) : Impartial r (readList read) := by
  intro d e hde
  cases hde.matched hr with
  | array hitems => exact h.items hitems
  | _ => simp only [ofDocument, readList, toOption_refuse]

end Impartial

section Records
variable {δ : Type} {fields : List (RecordField δ)}
  (hreads : ∀ f ∈ fields, ∀ draft, Impartial r (f.read draft))
include hreads

theorem foldl_takeMember?_paired {ms ns : Members} (h : Entries.Paired (Twins r) ms ns)
    (draft : Option δ) :
    ms.foldl (takeMember? fields) draft = ns.foldl (takeMember? fields) draft := by
  induction h generalizing draft with
  | nil => rfl
  | @cons k v w ms ns hvw _ ih =>
    have htake : takeMember? fields draft (k, v) = takeMember? fields draft (k, w) := by
      simp only [takeMember?]
      congr 1
      funext draft
      cases hfind : fields.find? fun f => f.name = k with
      | none => rfl
      | some f =>
        simp only [RecordField.take?, hreads f (List.mem_of_find?_eq_some hfind) draft v w hvw]
    rw [List.foldl_cons, List.foldl_cons, htake, ih]

theorem toOption_readColumns {expected : String} {xs ys : List Document}
    (hitems : List.Forall₂ (Twins r) xs ys) (n : Nat) (draft : δ) :
    (readColumns expected .closed fields n draft (ofItems xs)).toOption =
      (readColumns expected .closed fields n draft (ofItems ys)).toOption := by
  induction fields generalizing xs ys n draft with
  | nil =>
    cases hitems with
    | nil => rfl
    | cons _ _ => rfl
  | cons f fields ih =>
    rw [List.forall_mem_cons] at hreads
    cases hitems with
    | nil => rfl
    | cons hxy hrest =>
      simp only [ofItems, readColumns, toOption_bind, hreads.1 draft _ _ hxy, ih hreads.2 hrest]

/-- Records whose fields are read impartially, each into a slot of its own, are read impartially. -/
theorem Impartial.record (hr : Orderless r) (hapart : fields.Pairwise RecordField.Apart)
    (name : String) (blank : δ) : Impartial r (readRecord name fields blank) := by
  intro d e hde
  cases hde.matched hr with
  | array hitems => exact toOption_readColumns hreads hitems 0 blank
  | object hagree =>
    obtain ⟨hms, hns, hagree⟩ := (Twins.object_iff hr).mp hde
    obtain ⟨ls, hperm, hpaired⟩ := hagree.exists_paired hms hns
    simp only [ofDocument, readRecord, toOption_readFields]
    rw [foldl_takeMember?_perm hapart hms hperm, foldl_takeMember?_paired hreads hpaired]
  | _ => simp only [ofDocument, readRecord, toOption_refuse]

end Records
end Impartial
end Outline

namespace Trigger

open Document Outline

theorem Parameter.apart_fields : Parameter.fields.Pairwise RecordField.Apart := by
  simp only [Parameter.fields, List.pairwise_cons, List.forall_mem_cons, List.not_mem_nil,
    false_implies, implies_true, and_true, List.Pairwise.nil]
  exact apart_of_slots (fun _ _ => rfl) (fun _ _ => rfl) fun _ _ _ => rfl

theorem apart_fields : Trigger.fields.Pairwise RecordField.Apart := by
  simp only [Trigger.fields, List.pairwise_cons, List.forall_mem_cons, List.not_mem_nil,
    false_implies, implies_true, and_true, List.Pairwise.nil]
  refine ⟨⟨?_, ?_, ?_⟩, ⟨?_, ?_⟩, ?_⟩ <;>
    exact apart_of_slots (fun _ _ => rfl) (fun _ _ => rfl) fun _ _ _ => rfl

variable {r : Document → Document → Prop} (hr : Orderless r)
include hr

theorem Parameter.impartial_read : Impartial r Parameter.read := by
  have hreads : ∀ f ∈ Parameter.fields, ∀ draft, Impartial r (f.read draft) := by
    simp only [Parameter.fields, List.forall_mem_cons, List.not_mem_nil, false_implies, implies_true,
      and_true]
    exact ⟨fun _ => (Impartial.string hr).map _, fun _ => (Impartial.string hr).map _⟩
  exact (Impartial.record hreads hr Parameter.apart_fields _ _).bind _

theorem impartial_read : Impartial r Trigger.read := by
  have hreads : ∀ f ∈ Trigger.fields, ∀ draft, Impartial r (f.read draft) := by
    simp only [Trigger.fields, List.forall_mem_cons, List.not_mem_nil, false_implies, implies_true,
      and_true]
    have hstring := Impartial.string hr
    exact ⟨fun _ => hstring.map _, fun _ => hstring.map _, fun _ => (hstring.map Kind.ofName).map _,
      fun _ => ((Parameter.impartial_read hr).list hr).map _⟩
  exact (Impartial.record hreads hr apart_fields _ _).bind _

theorem ofDocument?_eq_of_twins {d e : Document} (h : Twins r d e) : ofDocument? d = ofDocument? e :=
  impartial_read hr d e h

end Trigger
end ComponentForm

import ComponentForm.Proofs.Outline.Records

/-! Records read slot by slot. Where no name comes twice, the fields of a record need not be taken as the
members come: each may be looked up by its name, and fills its slot or leaves it empty. -/
namespace ComponentForm

namespace Outline

open Document

theorem toOption_readString (d : Document) : (readString (ofDocument d)).toOption = d.asString? := by
  cases d <;> rfl

theorem readItems_eq_some_iff {α : Type} {read : Outline → Reading α} {xs : List Document} {as : List α} :
    (readItems read .closed (ofItems xs)).toOption = some as ↔
      List.Forall₂ (fun x a => (read (ofDocument x)).toOption = some a) xs as := by
  induction xs generalizing as with
  | nil =>
    rw [List.forall₂_nil_left_iff]
    exact Option.some_inj.trans eq_comm
  | cons x xs ih =>
    rw [ofItems, readItems, toOption_bind, Option.bind_eq_some_iff, List.forall₂_cons_left_iff]
    refine exists_congr fun a => ?_
    rw [toOption_bind, Option.bind_eq_some_iff]
    simp only [ih]
    constructor
    · rintro ⟨ha, as', has, h⟩
      cases h
      exact ⟨as', ha, has, rfl⟩
    · rintro ⟨as', ha, has, rfl⟩
      exact ⟨ha, as', has, rfl⟩

theorem readList_eq_some_iff {α : Type} {read : Outline → Reading α} {d : Document} {as : List α} :
    (readList read (ofDocument d)).toOption = some as ↔
      ∃ xs, d = .array xs ∧ List.Forall₂ (fun x a => (read (ofDocument x)).toOption = some a) xs as := by
  cases d with
  | array xs => simp [ofDocument, readList, readItems_eq_some_iff]
  | _ => simp [ofDocument, readList, toOption_refuse]

section Fields
variable {δ : Type} {fields : List (RecordField δ)}

def RecordField.takeFrom? (ms : Members) (draft : Option δ) (f : RecordField δ) : Option δ :=
  match Entries.value? ms f.name with
  | some v => draft.bind fun draft => f.take? draft v
  | none => draft

theorem foldl_takeMember?_cons_of_not_mem {f : RecordField δ} {ms : Members}
    (h : f.name ∉ Entries.names ms) (draft : Option δ) :
    ms.foldl (takeMember? (f :: fields)) draft = ms.foldl (takeMember? fields) draft := by
  refine List.foldl_ext _ _ draft fun draft m hm => ?_
  have hne : f.name ≠ m.1 := fun heq => h (heq ▸ List.mem_map_of_mem hm)
  have hfind : (f :: fields).find? (fun f => f.name = m.1) = fields.find? fun f => f.name = m.1 :=
    List.find?_cons_of_neg (by simpa using hne)
  rw [takeMember?, takeMember?, hfind]

/-- Fields may as well be looked up by their names, one after the other. -/
theorem foldl_takeMember?_eq (hapart : fields.Pairwise RecordField.Apart)
    (hfields : (fields.map RecordField.name).Nodup) {ms : Members} (hnames : (Entries.names ms).Nodup)
    (draft : Option δ) :
    ms.foldl (takeMember? fields) draft = fields.foldl (RecordField.takeFrom? ms) draft := by
  induction fields generalizing ms draft with
  | nil =>
    induction ms generalizing draft with
    | nil => rfl
    | cons m ms ih =>
      have htake : takeMember? [] draft m = draft := by cases draft <;> rfl
      rw [List.foldl_cons, htake]
      exact ih (List.nodup_cons.mp hnames).2 draft
  | cons f fields ih =>
    have hrest := (List.pairwise_cons.mp hapart).2
    rw [List.map_cons, List.nodup_cons] at hfields
    rw [List.foldl_cons, RecordField.takeFrom?]
    cases hv : Entries.value? ms f.name with
    | none =>
      rw [foldl_takeMember?_cons_of_not_mem (Entries.value?_eq_none_iff.mp hv)]
      exact ih hrest hfields.2 hnames draft
    | some v =>
      have hfirst : takeMember? (f :: fields) draft (f.name, v) =
          draft.bind fun draft => f.take? draft v := by
        simp [takeMember?]
      have hgone : f.name ∉ Entries.names (Entries.remove ms f.name) :=
        Entries.value?_eq_none_iff.mp (Entries.value?_remove_self hnames f.name)
      have hsame : ∀ draft, ∀ g ∈ fields,
          RecordField.takeFrom? (Entries.remove ms f.name) draft g = RecordField.takeFrom? ms draft g := by
        intro draft g hg
        have hne : f.name ≠ g.name := fun heq => hfields.1 (heq ▸ List.mem_map_of_mem hg)
        simp only [RecordField.takeFrom?, Entries.value?_remove_of_ne ms hne]
      rw [foldl_takeMember?_perm hapart hnames (Entries.perm_cons_remove hv), List.foldl_cons, hfirst,
        foldl_takeMember?_cons_of_not_mem hgone,
        ih hrest hfields.2 (Entries.nodup_names_remove hnames f.name)]
      exact List.foldl_ext _ _ _ hsame

theorem toOption_readRecord (hapart : fields.Pairwise RecordField.Apart)
    (hfields : (fields.map RecordField.name).Nodup) {ms : Members} (hnames : (Entries.names ms).Nodup)
    (name : String) (blank : δ) :
    (readRecord name fields blank (ofDocument (.object ms))).toOption =
      fields.foldl (RecordField.takeFrom? ms) (some blank) := by
  rw [ofDocument, readRecord, toOption_readFields, foldl_takeMember?_eq hapart hfields hnames]

end Fields

section Slots
variable {α δ : Type} {ms : Members}

/-- What the members hold for a field: nothing, or what is read of a value, if it can be read. -/
def slot? (ms : Members) (name : String) (read : Outline → Reading α) : Option (Option α) :=
  match Entries.value? ms name with
  | some v => ((read (ofDocument v)).toOption).map some
  | none => some none

theorem slot?_eq_some_iff {name : String} {read : Outline → Reading α} {a : α} :
    slot? ms name read = some (some a) ↔
      ∃ v, Entries.value? ms name = some v ∧ (read (ofDocument v)).toOption = some a := by
  rw [slot?]
  cases Entries.value? ms name <;> simp

theorem slot?_string_eq_some_iff {name s : String} :
    slot? ms name readString = some (some s) ↔ Entries.value? ms name = some (.string s) := by
  simp [slot?_eq_some_iff, toOption_readString, asString?_eq_some_iff]

theorem takeFrom?_slot {name : String} {optional : Bool} {held : δ → Bool} {read : Outline → Reading α}
    {fill : δ → α → δ} {draft : δ} (hheld : held draft = false) :
    RecordField.takeFrom? ms (some draft) ⟨name, optional, held, fun draft o => (read o).map (fill draft)⟩ =
      (slot? ms name read).map fun a => a.elim draft (fill draft) := by
  rw [RecordField.takeFrom?, slot?]
  cases Entries.value? ms name with
  | none => rfl
  | some v =>
    simp only [RecordField.take?, Option.bind_some, hheld, Bool.false_eq_true, if_false, toOption_map,
      Option.map_map]
    rfl

theorem foldl_takeFrom? (fields : List (RecordField δ)) (draft : Option δ) :
    fields.foldl (RecordField.takeFrom? ms) draft =
      draft.bind fun draft => fields.foldl (RecordField.takeFrom? ms) (some draft) := by
  cases draft with
  | some draft => rfl
  | none =>
    rw [Option.bind_none]
    induction fields with
    | nil => rfl
    | cons f fields ih =>
      rw [List.foldl_cons, RecordField.takeFrom?]
      split <;> exact ih

theorem readColumns_cons_of_slot {fields : List (RecordField δ)} {name expected : String} {optional : Bool}
    {held : δ → Bool} {read : Outline → Reading α} {fill : δ → α → δ} {n : Nat} {draft draft' : δ}
    {x : Document} {xs : List Document} :
    (readColumns expected .closed (⟨name, optional, held, fun draft o => (read o).map (fill draft)⟩ :: fields) n
      draft (ofItems (x :: xs))).toOption = some draft' ↔
      ∃ a, (read (ofDocument x)).toOption = some a ∧
        (readColumns expected .closed fields (n + 1) (fill draft a) (ofItems xs)).toOption = some draft' := by
  rw [ofItems, readColumns, toOption_bind, toOption_map, Option.bind_map, Option.bind_eq_some_iff]
  rfl

end Slots

end Outline
end ComponentForm

import ComponentForm.Proofs.Outline.Records

/-! What readers make, and whether they take it back. A reader makes few of the values of its type: a
document that has been read has no name twice, and a record has what its blank draft has and every
field keeps. Such properties make up for what writing forgets, so that a value which has once been read
is read again from the document that it is written to. -/
namespace ComponentForm

theorem bind_eq_ok_iff {ε α β : Type} {e : Except ε α} {f : α → Except ε β} {b : β} :
    (e >>= f) = .ok b ↔ ∃ a, e = .ok a ∧ f a = .ok b := by
  cases e with
  | error e => simp [bind, Except.bind]
  | ok a => simp [bind, Except.bind]

theorem map_eq_ok_iff {ε α β : Type} {f : α → β} {e : Except ε α} {b : β} :
    e.map f = .ok b ↔ ∃ a, e = .ok a ∧ f a = b := by
  cases e with
  | error e => simp [Except.map]
  | ok a => simp [Except.map]

namespace Outline

open Document

theorem refuse_ne_ok {α : Type} {o : Outline} {expected : String} {a : α} :
    o.refuse expected ≠ .ok a := by
  intro h
  have hnone := toOption_refuse (α := α) o expected
  rw [h] at hnone
  cases hnone

theorem readString_string (s : String) : readString (.string s) = .ok s := rfl

theorem readBool_bool (b : Bool) : readBool (.bool b) = .ok b := rfl

theorem require_eq_ok_iff {α : Type} {name : String} {held : Option α} {a : α} :
    require name held = .ok a ↔ held = some a := by
  cases held <;> simp [require]

theorem cases_of_readOption {α : Type} {read : Outline → Reading α} {o : Outline} {held : Option α}
    (h : readOption read o = .ok held) :
    o = .null ∧ held = none ∨ ∃ a, read o = .ok a ∧ held = some a := by
  cases o with
  | null =>
    cases h
    exact Or.inl ⟨rfl, rfl⟩
  | _ =>
    simp only [readOption] at h
    obtain ⟨a, ha, rfl⟩ := map_eq_ok_iff.mp h
    exact Or.inr ⟨a, ha, rfl⟩

section Ensures
variable {α β δ : Type} {p : α → Prop} {q : β → Prop}

/-- Whatever the reader makes has the property. -/
def Ensures (p : α → Prop) (read : Outline → Reading α) : Prop :=
  ∀ ⦃o a⦄, read o = .ok a → p a

namespace Ensures
variable {read : Outline → Reading α}

theorem trivial (read : Outline → Reading α) : Ensures (fun _ => True) read :=
  fun _ _ _ => True.intro

theorem map (h : Ensures p read) {f : α → β} (hf : ∀ a, p a → q (f a)) :
    Ensures q fun o => (read o).map f := by
  intro o b hb
  obtain ⟨a, ha, rfl⟩ := map_eq_ok_iff.mp hb
  exact hf a (h ha)

theorem bind (h : Ensures p read) {f : α → Reading β} (hf : ∀ a b, p a → f a = .ok b → q b) :
    Ensures q fun o => read o >>= f := by
  intro o b hb
  obtain ⟨a, ha, hfa⟩ := bind_eq_ok_iff.mp hb
  exact hf a b (h ha) hfa

theorem option (h : Ensures p read) : Ensures (fun held => ∀ a ∈ held, p a) (readOption read) := by
  intro o held hheld a ha
  rcases cases_of_readOption hheld with ⟨-, rfl⟩ | ⟨a', ha', rfl⟩
  · cases ha
  · cases ha
    exact h ha'

end Ensures

/-- Taking the field in leaves the property to the draft. -/
def RecordField.Keeps (p : δ → Prop) (f : RecordField δ) : Prop :=
  ∀ draft, p draft → Ensures p (f.read draft)

theorem keeps_of_slot {p : δ → Prop} {q : α → Prop} {name : String} {optional : Bool} {held : δ → Bool}
    {read : Outline → Reading α} {fill : δ → α → δ} (hread : Ensures q read)
    (hfill : ∀ draft a, p draft → q a → p (fill draft a)) :
    RecordField.Keeps p ⟨name, optional, held, fun draft o => (read o).map (fill draft)⟩ :=
  fun draft h => hread.map fun a ha => hfill draft a h ha

section Records
variable {p : δ → Prop} {fields : List (RecordField δ)} {closing : Closing} {draft draft' : δ}
  (hfields : ∀ f ∈ fields, f.Keeps p)
include hfields

theorem keeps_readFields {other : δ → String → Outline → Reading δ}
    (hother : ∀ draft k, p draft → (∀ f ∈ fields, f.name ≠ k) → Ensures p (other draft k))
    {ms : List (Except Fault String × Outline)} (h : p draft)
    (hread : readFields fields other closing draft ms = .ok draft') : p draft' := by
  induction ms generalizing draft with
  | nil =>
    obtain ⟨-, -, rfl⟩ := map_eq_ok_iff.mp hread
    exact h
  | cons m ms ih =>
    obtain ⟨k | k, o⟩ := m
    · cases hread
    · rw [readFields] at hread
      cases hfind : fields.find? fun f => f.name = k with
      | none =>
        have hk : ∀ f ∈ fields, f.name ≠ k := by simpa using hfind
        simp only [hfind] at hread
        cases hnext : other draft k o with
        | error e => simp [hnext] at hread
        | ok next =>
          rw [hnext] at hread
          exact ih (hother draft k h hk hnext) hread
      | some f =>
        simp only [hfind] at hread
        split at hread
        · cases hread
        · cases hnext : f.read draft o with
          | error e => simp [hnext] at hread
          | ok next =>
            rw [hnext] at hread
            exact ih (hfields f (List.mem_of_find?_eq_some hfind) draft h hnext) hread

theorem keeps_readColumns {expected : String} {os : List Outline} {n : Nat} (h : p draft)
    (hread : readColumns expected closing fields n draft os = .ok draft') : p draft' := by
  induction fields generalizing os n draft with
  | nil =>
    cases os with
    | nil =>
      obtain ⟨-, -, rfl⟩ := map_eq_ok_iff.mp hread
      exact h
    | cons o os => cases hread
  | cons f fields ih =>
    rw [List.forall_mem_cons] at hfields
    cases os with
    | nil =>
      obtain ⟨-, -, hread⟩ := bind_eq_ok_iff.mp hread
      split at hread
      · exact ih hfields.2 h hread
      · cases hread
    | cons o os =>
      obtain ⟨next, hnext, hread⟩ := bind_eq_ok_iff.mp hread
      exact ih hfields.2 (hfields.1 draft h hnext) hread

/-- A record has what its blank draft has, be it written as an object or as a list. -/
theorem Ensures.record {blank : δ} (h : p blank) (name : String) :
    Ensures p (readRecord name fields blank) := by
  intro o draft hread
  cases o with
  | object ms closing =>
    refine keeps_readFields hfields (fun draft k hdraft _ o draft' hpass => ?_) h hread
    obtain ⟨-, -, rfl⟩ := map_eq_ok_iff.mp hpass
    exact hdraft
  | array os closing => exact keeps_readColumns hfields h hread
  | _ =>
    simp only [readRecord] at hread
    exact absurd hread refuse_ne_ok

end Records
end Ensures

mutual
theorem distinct_of_readDocument {o : Outline} {d : Document} (h : readDocument o = .ok d) :
    d.Distinct := by
  cases o with
  | array os closing =>
    rw [readDocument] at h
    cases hos : readDocuments closing os with
    | error e => simp [hos] at h
    | ok xs =>
      rw [hos] at h
      cases h
      exact distinctItems_of_readDocuments hos
  | object ms closing =>
    rw [readDocument] at h
    cases hms : readMembers closing ms [] with
    | error e => simp [hms] at h
    | ok ns =>
      rw [hms] at h
      cases h
      exact distinct_of_readMembers .nil hms
  | null => cases h; trivial
  | bool v => cases h; trivial
  | number n => cases h; trivial
  | string s => cases h; trivial
  | marred opening fault => cases h
  | broken opening read pass => cases h

theorem distinctItems_of_readDocuments {closing : Closing} {os : List Outline} {xs : List Document}
    (h : readDocuments closing os = .ok xs) : DistinctItems xs := by
  cases os with
  | nil =>
    obtain ⟨-, -, rfl⟩ := map_eq_ok_iff.mp h
    trivial
  | cons o os =>
    rw [readDocuments] at h
    cases ho : readDocument o with
    | error e => simp [ho] at h
    | ok x =>
      cases hos : readDocuments closing os with
      | error e => simp [ho, hos] at h
      | ok xs =>
        rw [ho, hos] at h
        cases h
        exact ⟨distinct_of_readDocument ho, distinctItems_of_readDocuments hos⟩

theorem distinct_of_readMembers {closing : Closing} {ms : List (Except Fault String × Outline)}
    {acc ns : Members} (hacc : (Document.object acc).Distinct)
    (h : readMembers closing ms acc = .ok ns) : (Document.object ns).Distinct := by
  cases ms with
  | nil =>
    obtain ⟨-, -, rfl⟩ := map_eq_ok_iff.mp h
    exact hacc
  | cons m ms =>
    obtain ⟨k | k, o⟩ := m
    · cases h
    · rw [readMembers] at h
      cases ho : readDocument o with
      | error e => simp [ho] at h
      | ok v =>
        rw [ho] at h
        exact distinct_of_readMembers (hacc.put (distinct_of_readDocument ho)) h
end

theorem ensures_readDocument : Ensures Document.Distinct readDocument :=
  fun _ _ => distinct_of_readDocument

theorem null_of_readDocument {o : Outline} (h : readDocument o = .ok .null) : o = .null := by
  cases o with
  | null => rfl
  | array os closing =>
    rw [readDocument] at h
    split at h <;> cases h
  | object ms closing =>
    rw [readDocument] at h
    split at h <;> cases h
  | bool v => cases h
  | number n => cases h
  | string s => cases h
  | marred opening fault => cases h
  | broken opening read pass => cases h

section ReadBack
variable {α : Type} {read : Outline → Reading α} {write : α → Document}

/-- What the reader has made of any outline, be it that of a text or of a document, it makes again of the
document that the value is written to. -/
def ReadBack (read : Outline → Reading α) (write : α → Document) : Prop :=
  Ensures (fun a => read (ofDocument (write a)) = .ok a) read

theorem Ensures.readBack {p : α → Prop} (h : Ensures p read)
    (hback : ∀ a, p a → read (ofDocument (write a)) = .ok a) : ReadBack read write :=
  fun _ a ha => hback a (h ha)

theorem readFields_cons_of_slot {δ : Type} {fields : List (RecordField δ)}
    {other : δ → String → Outline → Reading δ} {closing : Closing} {draft : δ} {k name : String}
    {o : Outline} {optional : Bool} {held : δ → Bool} {fill : δ → α → δ} {a : α}
    (hfind : fields.find? (·.name = k) =
      some ⟨name, optional, held, fun draft o => (read o).map (fill draft)⟩)
    (hheld : held draft = false) (hread : read o = .ok a) (rest : List (Except Fault String × Outline)) :
    readFields fields other closing draft ((.ok k, o) :: rest) =
      readFields fields other closing (fill draft a) rest :=
  readFields_cons_of_field hfind hheld (map_eq_ok_iff.mpr ⟨a, hread, rfl⟩) rest

theorem readItems_ofItems_map (hback : ∀ a, read (ofDocument (write a)) = .ok a) (as : List α) :
    readItems read .closed (ofItems (as.map write)) = .ok as := by
  induction as with
  | nil => rfl
  | cons a as ih =>
    rw [List.map_cons, ofItems, readItems, hback, ih]
    rfl

end ReadBack
end Outline
end ComponentForm

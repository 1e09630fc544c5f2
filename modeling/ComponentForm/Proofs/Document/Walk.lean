import ComponentForm.Form.Outcome

/-! What a walk leaves behind. Nulls and missing members are no obstruction, so a walk that fails
has only gone through values that were there, and has put each of them back as it was. -/
namespace ComponentForm
namespace Document

theorem walk_object_cons (values ms : Members) (segment : String) (rest : List String) :
    walk values (.object ms) (segment :: rest) =
      ((walk values ((Entries.value? ms segment).getD .null) rest).1,
        .object (Entries.put ms segment
          (walk values ((Entries.value? ms segment).getD .null) rest).2)) := rfl

theorem walk_null (values : Members) (segments : List String) :
    (walk values .null segments).1 = .ok () := by
  induction segments with
  | nil => rfl
  | cons segment rest ih => exact ih

/-- A walk through an array goes through an item, or fails and leaves the array alone. -/
theorem walk_array_cons (values : Members) (xs : List Document) (segment : String)
    (rest : List String) :
    (∃ e, walk values (.array xs) (segment :: rest) = (.error e, .array xs)) ∨
    ∃ i item, xs[i]? = some item ∧ walk values (.array xs) (segment :: rest) =
      ((walk values item rest).1, .array (xs.set i (walk values item rest).2)) := by
  cases hi : Text.readCount? Text.wordLimit segment with
  | none => exact Or.inl ⟨.notAnIndex segment, by simp [walk, opened, hi]⟩
  | some i =>
    cases hitem : xs[i]? with
    | none => exact Or.inl ⟨.outOfRange i xs.length, by simp [walk, opened, hi, hitem]⟩
    | some item => exact Or.inr ⟨i, item, hitem, by simp [walk, opened, hi, hitem]⟩

theorem walk_snd_of_error {values : Members} {d : Document} {segments : List String}
    {e : Obstruction} (h : (walk values d segments).1 = .error e) :
    (walk values d segments).2 = d := by
  induction segments generalizing d with
  | nil => cases d <;> first | rfl | simp [walk, opened] at h
  | cons segment rest ih =>
    cases d with
    | null => rw [walk_null] at h; cases h
    | object ms =>
      rw [walk_object_cons] at h ⊢
      cases hv : Entries.value? ms segment with
      | none =>
        rw [hv, Option.getD_none, walk_null] at h
        cases h
      | some child =>
        rw [hv] at h
        simp only [Option.getD_some] at h ⊢
        rw [ih h, Entries.put_of_value?_eq hv]
    | array xs =>
      rcases walk_array_cons values xs segment rest with ⟨e', he⟩ | ⟨i, item, hitem, hw⟩
      · rw [he]
      · rw [hw] at h ⊢
        obtain ⟨hi, rfl⟩ := List.getElem?_eq_some_iff.mp hitem
        simp only at h ⊢
        rw [ih h, List.set_getElem_self]
    | bool b => rfl
    | number n => rfl
    | string s => rfl

theorem mergeAt_snd_of_error {d : Document} {path : String} {values : Members} {e : MergeError}
    (h : (d.mergeAt path values).1 = .error e) : (d.mergeAt path values).2 = d := by
  simp only [mergeAt] at h ⊢
  cases hw : (walk values d ((Path.segments path).filter (· ≠ ""))).1 with
  | error e => exact walk_snd_of_error hw
  | ok u => rw [hw] at h; cases h

end Document

namespace Form

theorem mergeValues_snd_of_error {f : Form} {path : String} {additions : Members} {e : MergeError}
    (h : (f.mergeValues path additions).1 = .error e) : (f.mergeValues path additions).2 = f := by
  simp only [mergeValues] at h ⊢
  rw [Document.mergeAt_snd_of_error h]
  rfl

theorem absorb_snd_of_error {f : Form} {o : Outcome} {e : MergeError}
    (h : (f.absorb o).1 = .error e) : (f.absorb o).2 = f := by
  cases o with
  | updated field values =>
    simp only [absorb] at h ⊢
    cases hm : (f.mergeValues field values).1 with
    | error e => exact mergeValues_snd_of_error hm
    | ok u => simp [hm, Except.map] at h
  | checked field verdict comment => cases verdict <;> simp [absorb] at h
  | offered field choices =>
    simp only [absorb] at h
    split at h <;> simp at h
  | health verdict comment => simp [absorb] at h
  | fragment kind body => simp [absorb] at h

end Form
end ComponentForm

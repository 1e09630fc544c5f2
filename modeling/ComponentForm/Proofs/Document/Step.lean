import ComponentForm.Proofs.Document.Obstacle

/-! One step of a walk. The walk takes what is found under a segment, null where nothing is, and puts
what it makes of that back under the same segment. Putting back is a lens: the segment leads to what
was put there, and every segment that leads elsewhere leads to what it led to before. -/
namespace ComponentForm
namespace Document

def childAt (d : Document) (segment : String) : Document :=
  (d.step? segment).getD .null

/-- The value with another child under the segment. A null becomes an object to hold it. -/
def withChild : Document → String → Document → Document
  | .null, segment, child => .object [(segment, child)]
  | .object ms, segment, child => .object (Entries.put ms segment child)
  | .array xs, segment, child =>
    match Text.readCount? Text.wordLimit segment with
    | some i => .array (xs.set i child)
    | none => .array xs
  | d, _, _ => d

/-- A walk can go on from the value under the segment. -/
inductive Takes : Document → String → Prop
  | null (segment : String) : Takes .null segment
  | object (ms : Members) (segment : String) : Takes (.object ms) segment
  | array {xs : List Document} {segment : String} {i : Nat} {item : Document} :
    Text.readCount? Text.wordLimit segment = some i → xs[i]? = some item → Takes (.array xs) segment

/-- The two segments take the same step: they count the same item of an array, and have to be one name
elsewhere. -/
def SameStep : Document → String → String → Prop
  | .array _, s, t => Text.readCount? Text.wordLimit s = Text.readCount? Text.wordLimit t
  | _, s, t => s = t

theorem getD_follow?_null (route : List String) : (Document.null.follow? route).getD .null = .null := by
  cases route <;> rfl

theorem getD_follow?_cons (d : Document) (segment : String) (route : List String) :
    (d.follow? (segment :: route)).getD .null = ((d.childAt segment).follow? route).getD .null := by
  rw [follow?, childAt]
  cases d.step? segment with
  | none => exact (getD_follow?_null route).symm
  | some child => rfl

section Lens
variable {d : Document} {s t : String}

theorem step?_withChild_self (h : d.Takes s) (c : Document) : (d.withChild s c).step? s = some c := by
  cases h with
  | null s => simp [withChild, step?, Entries.value?_cons]
  | object ms s => exact Entries.value?_put_self ms s c
  | array hi hitem =>
    have hlt := (List.getElem?_eq_some_iff.mp hitem).1
    simp [withChild, step?, hi, List.getElem?_set_self hlt]

theorem childAt_withChild (h : d.Takes s) (c : Document) : (d.withChild s c).childAt s = c := by
  rw [childAt, step?_withChild_self h, Option.getD_some]

theorem takes_withChild (h : d.Takes s) (c : Document) : (d.withChild s c).Takes s := by
  cases h with
  | null s => exact .object _ s
  | object ms s => exact .object _ s
  | array hi hitem =>
    have hlt := (List.getElem?_eq_some_iff.mp hitem).1
    simp only [withChild, hi]
    exact .array hi (List.getElem?_set_self hlt)

theorem withChild_withChild (h : d.Takes s) (c e : Document) :
    (d.withChild s c).withChild s e = d.withChild s e := by
  cases h with
  | null s => simp [withChild, Entries.put]
  | object ms s => simp only [withChild, Entries.put_put_self]
  | array hi hitem => simp only [withChild, hi, List.set_set]

theorem step?_eq_of_sameStep (h : d.SameStep s t) : d.step? s = d.step? t := by
  cases d with
  | array xs => rw [step?, step?, show Text.readCount? _ s = Text.readCount? _ t from h]
  | _ => exact congrArg _ h

theorem sameStep_withChild (h : d.Takes s) (c : Document) (hsame : d.SameStep s t) :
    (d.withChild s c).SameStep s t := by
  cases h with
  | null s => exact hsame
  | object ms s => exact hsame
  | array hi hitem =>
    simp only [withChild, hi]
    exact hsame

theorem step?_withChild_of_not_sameStep (h : d.Takes s) (c : Document) (hne : ¬ d.SameStep s t) :
    (d.withChild s c).step? t = d.step? t := by
  cases h with
  | null s => simp [withChild, step?, Entries.value?_cons, show s ≠ t from hne]
  | object ms s => exact Entries.value?_put_of_ne ms c hne
  | @array xs s i item hi hitem =>
    simp only [withChild, hi, step?]
    cases hj : Text.readCount? Text.wordLimit t with
    | none => rfl
    | some j =>
      have hij : i ≠ j := fun hij => hne (hi.trans ((congrArg some hij).trans hj.symm))
      rw [Option.bind_some, Option.bind_some, List.getElem?_set_ne hij]

end Lens

section Walk
variable {d : Document} {values : Members} {segment : String} {rest : List String}

/-- A walk that can go on does so on the child, and puts back what it makes of it. -/
theorem walk_of_takes (h : d.Takes segment) (values : Members) (rest : List String) :
    walk values d (segment :: rest) =
      ((walk values (d.childAt segment) rest).1,
        d.withChild segment (walk values (d.childAt segment) rest).2) := by
  cases h with
  | null => rfl
  | object ms => rfl
  | array hi hitem =>
    rw [walk_array_cons_of_item hi hitem]
    simp [childAt, step?, withChild, hi, hitem]

theorem takes_of_walk_ok (h : (walk values d (segment :: rest)).1 = .ok ()) : d.Takes segment := by
  have hscalar : d.isScalar → d.Takes segment := by
    intro hscalar
    rw [walk_scalar_cons hscalar] at h
    cases h
  cases d with
  | null => exact .null segment
  | object ms => exact .object ms segment
  | array xs =>
    rcases item_or_no_item xs segment with ⟨i, item, hi, hitem⟩ | hnone
    · exact .array hi hitem
    · obtain ⟨e, he⟩ := walk_array_cons_of_no_item hnone
      rw [he values rest xs rfl] at h
      cases h
  | bool v => exact hscalar rfl
  | number n => exact hscalar rfl
  | string v => exact hscalar rfl

theorem walk_childAt_ok (h : (walk values d (segment :: rest)).1 = .ok ()) :
    (walk values (d.childAt segment) rest).1 = .ok () := by
  rwa [walk_of_takes (takes_of_walk_ok h)] at h

end Walk
end Document
end ComponentForm

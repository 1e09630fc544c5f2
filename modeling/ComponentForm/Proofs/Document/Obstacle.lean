import ComponentForm.Proofs.Document.Parting

/-! What is in the way of a walk. A route is followed through the values that are there; what it comes
to either lets it go on or stops it. A walk fails exactly where its route is stopped, and nulls and
missing members stop none. -/
namespace ComponentForm
namespace Document

def isScalar : Document → Bool
  | .bool _ | .number _ | .string _ => true
  | _ => false

def isArray : Document → Bool
  | .array _ => true
  | _ => false

/-- The value stops a walk that has these segments left. -/
inductive Stops : Document → List String → Obstruction → Prop
  | notAnIndex (xs : List Document) {segment : String} (rest : List String) :
    Text.readCount? Text.wordLimit segment = none →
    Stops (.array xs) (segment :: rest) (.notAnIndex segment)
  | outOfRange {xs : List Document} {segment : String} (rest : List String) {i : Nat} :
    Text.readCount? Text.wordLimit segment = some i → xs.length ≤ i →
    Stops (.array xs) (segment :: rest) (.outOfRange i xs.length)
  | crossed {d : Document} (segment : String) (rest : List String) :
    d.isScalar → Stops d (segment :: rest) (.crossed segment d.kind)
  | endsOn {d : Document} : d.isScalar ∨ d.isArray → Stops d [] (.endsOn d.kind)

/-- The route leads through values of the document to one that stops a walk. -/
def Obstructed (d : Document) (route : List String) (o : Obstruction) : Prop :=
  ∃ front rest value, route = front ++ rest ∧ d.follow? front = some value ∧ value.Stops rest o

theorem stops_scalar_cons {d : Document} (h : d.isScalar) {segment : String} {rest : List String}
    {o : Obstruction} : d.Stops (segment :: rest) o ↔ o = .crossed segment d.kind := by
  constructor
  · intro hstops
    cases hstops with
    | notAnIndex xs rest hi => cases h
    | outOfRange rest hi hlength => cases h
    | crossed segment rest h => rfl
  · rintro rfl
    exact .crossed segment rest h

theorem stops_nil {d : Document} {o : Obstruction} :
    d.Stops [] o ↔ (d.isScalar ∨ d.isArray) ∧ o = .endsOn d.kind := by
  constructor
  · intro hstops
    cases hstops with
    | endsOn h => exact ⟨h, rfl⟩
  · rintro ⟨h, rfl⟩
    exact .endsOn h

theorem not_stops {d : Document} (hscalar : d.isScalar = false) (harray : d.isArray = false)
    (route : List String) (o : Obstruction) : ¬ d.Stops route o := by
  intro h
  cases h with
  | notAnIndex xs rest hi => cases harray
  | outOfRange rest hi hlength => cases harray
  | crossed segment rest h => simp [hscalar] at h
  | endsOn h => simp [hscalar, harray] at h

theorem stops_array_cons {xs : List Document} {segment : String} {rest : List String}
    {o : Obstruction} :
    (Document.array xs).Stops (segment :: rest) o ↔
      Text.readCount? Text.wordLimit segment = none ∧ o = .notAnIndex segment ∨
      ∃ i, Text.readCount? Text.wordLimit segment = some i ∧ xs.length ≤ i ∧
        o = .outOfRange i xs.length := by
  constructor
  · intro hstops
    cases hstops with
    | notAnIndex xs rest hi => exact Or.inl ⟨hi, rfl⟩
    | outOfRange rest hi hlength => exact Or.inr ⟨_, hi, hlength, rfl⟩
    | crossed segment rest h => cases h
  · rintro (⟨hi, rfl⟩ | ⟨i, hi, hlength, rfl⟩)
    · exact .notAnIndex xs rest hi
    · exact .outOfRange rest hi hlength

theorem obstructed_nil {d : Document} {o : Obstruction} : d.Obstructed [] o ↔ d.Stops [] o := by
  constructor
  · rintro ⟨front, rest, value, hroute, hvalue, hstops⟩
    obtain ⟨rfl, rfl⟩ := List.append_eq_nil_iff.mp hroute.symm
    cases hvalue
    exact hstops
  · exact fun h => ⟨[], [], d, rfl, rfl, h⟩

theorem obstructed_cons {d : Document} {segment : String} {rest : List String} {o : Obstruction} :
    d.Obstructed (segment :: rest) o ↔
      d.Stops (segment :: rest) o ∨ ∃ child, d.step? segment = some child ∧ child.Obstructed rest o := by
  constructor
  · rintro ⟨front, left, value, hroute, hvalue, hstops⟩
    cases front with
    | nil =>
      cases hvalue
      rw [hroute]
      exact Or.inl hstops
    | cons s front =>
      obtain ⟨rfl, hrest⟩ := List.cons.inj hroute
      obtain ⟨child, hchild, hfollow⟩ := Option.bind_eq_some_iff.mp hvalue
      exact Or.inr ⟨child, hchild, front, left, value, hrest, hfollow, hstops⟩
  · rintro (h | ⟨child, hchild, front, left, value, rfl, hfollow, hstops⟩)
    · exact ⟨[], segment :: rest, d, rfl, rfl, h⟩
    · refine ⟨segment :: front, left, value, rfl, ?_, hstops⟩
      rw [follow?, hchild]
      exact hfollow

theorem not_obstructed_null (route : List String) (o : Obstruction) :
    ¬ Document.null.Obstructed route o := by
  cases route with
  | nil => exact fun h => not_stops rfl rfl [] o (obstructed_nil.mp h)
  | cons segment rest =>
    rw [obstructed_cons]
    rintro (h | ⟨child, hchild, -⟩)
    · exact not_stops rfl rfl _ o h
    · cases hchild

theorem obstructed_object_cons {ms : Members} {segment : String} {rest : List String}
    {o : Obstruction} :
    (Document.object ms).Obstructed (segment :: rest) o ↔
      ((Entries.value? ms segment).getD .null).Obstructed rest o := by
  rw [obstructed_cons, or_iff_right (not_stops rfl rfl _ o), step?]
  cases Entries.value? ms segment with
  | none => simpa using not_obstructed_null rest o
  | some child => simp

theorem obstructed_array_cons_of_item {xs : List Document} {segment : String} {i : Nat}
    {item : Document} (hi : Text.readCount? Text.wordLimit segment = some i)
    (hitem : xs[i]? = some item) {rest : List String} {o : Obstruction} :
    (Document.array xs).Obstructed (segment :: rest) o ↔ item.Obstructed rest o := by
  have hlength : ¬ xs.length ≤ i := Nat.not_le.mpr (List.getElem?_eq_some_iff.mp hitem).1
  rw [obstructed_cons, stops_array_cons, step?, hi, Option.bind_some, hitem]
  simp [hlength]

theorem obstructed_array_cons_of_no_item {xs : List Document} {segment : String}
    (h : ∀ i, Text.readCount? Text.wordLimit segment = some i → xs.length ≤ i)
    {rest : List String} {o : Obstruction} :
    (Document.array xs).Obstructed (segment :: rest) o ↔
      (Document.array xs).Stops (segment :: rest) o := by
  rw [obstructed_cons, or_iff_left]
  rintro ⟨child, hchild, -⟩
  obtain ⟨i, hi, hitem⟩ := Option.bind_eq_some_iff.mp hchild
  exact absurd (List.getElem?_eq_some_iff.mp hitem).1 (Nat.not_lt.mpr (h i hi))

theorem obstructed_scalar_cons {d : Document} (h : d.isScalar) {segment : String}
    {rest : List String} {o : Obstruction} :
    d.Obstructed (segment :: rest) o ↔ o = .crossed segment d.kind := by
  rw [obstructed_cons, stops_scalar_cons h, or_iff_left]
  rintro ⟨child, hchild, -⟩
  cases d <;> simp [isScalar, step?] at h hchild

theorem walk_array_cons_error_iff {xs : List Document} {segment : String}
    (h : ∀ i, Text.readCount? Text.wordLimit segment = some i → xs.length ≤ i) {values : Members}
    {rest : List String} {o : Obstruction} :
    (walk values (.array xs) (segment :: rest)).1 = .error o ↔
      (Document.array xs).Stops (segment :: rest) o := by
  rw [stops_array_cons]
  cases hi : Text.readCount? Text.wordLimit segment with
  | none => simp [walk, opened, hi, eq_comm]
  | some i =>
    have hitem : xs[i]? = none := List.getElem?_eq_none (h i hi)
    simp [walk, opened, hi, h i hi, eq_comm]

theorem walk_nil_error_iff {values : Members} {d : Document} {o : Obstruction} :
    (walk values d []).1 = .error o ↔ (d.isScalar ∨ d.isArray) ∧ o = .endsOn d.kind := by
  cases d <;> simp [walk, opened, isScalar, isArray, eq_comm]

theorem walk_scalar_cons {d : Document} (h : d.isScalar) (values : Members) (segment : String)
    (rest : List String) :
    walk values d (segment :: rest) = (.error (.crossed segment d.kind), d) := by
  cases d with
  | bool v => rfl
  | number n => rfl
  | string v => rfl
  | null => cases h
  | array xs => cases h
  | object ms => cases h

/-- A walk fails exactly where its route is stopped: below a missing member it goes on as below a
null, so that the values that were there before decide. -/
theorem walk_error_iff {values : Members} {d : Document} {route : List String} {o : Obstruction} :
    (walk values d route).1 = .error o ↔ d.Obstructed route o := by
  induction route generalizing d with
  | nil => rw [walk_nil_error_iff, obstructed_nil, stops_nil]
  | cons segment rest ih =>
    have hscalar : d.isScalar → ((walk values d (segment :: rest)).1 = .error o ↔
        d.Obstructed (segment :: rest) o) := by
      intro h
      rw [walk_scalar_cons h, obstructed_scalar_cons h, Except.error.injEq, eq_comm]
    cases d with
    | null =>
      rw [walk_null]
      exact iff_of_false nofun (not_obstructed_null _ o)
    | object ms => rw [walk_object_cons, obstructed_object_cons, ih]
    | array xs =>
      rcases item_or_no_item xs segment with ⟨i, item, hi, hitem⟩ | hnone
      · rw [walk_array_cons_of_item hi hitem, obstructed_array_cons_of_item hi hitem, ih]
      · rw [walk_array_cons_error_iff hnone, obstructed_array_cons_of_no_item hnone]
    | bool v => exact hscalar rfl
    | number n => exact hscalar rfl
    | string v => exact hscalar rfl

theorem mergeAt_error_iff {d : Document} {path : String} {values : Members} {e : MergeError} :
    (d.mergeAt path values).1 = .error e ↔
      e.path = path ∧ d.Obstructed (Path.route path) e.obstruction := by
  obtain ⟨path', o⟩ := e
  rw [← @walk_error_iff values]
  simp only [mergeAt, Path.route]
  cases (walk values d ((Path.segments path).filter (· ≠ ""))).1 with
  | ok u => simp [Except.mapError]
  | error o' => simp [Except.mapError, eq_comm]

end Document

namespace Form

theorem mergeValues_error_iff {f : Form} {path : String} {additions : Members} {e : MergeError} :
    (f.mergeValues path additions).1 = .error e ↔
      e.path = path ∧ f.values.Obstructed (Path.route path) e.obstruction :=
  Document.mergeAt_error_iff

/-- A merge fails exactly when something that was there before is in the way of its path. It then
reports the path and the obstruction, and leaves the form as it was. -/
theorem merge_fails_iff_obstructed (f : Form) (path : String) (additions : Members) :
    ((∃ e, (f.mergeValues path additions).1 = .error e) ↔
      ∃ o, f.values.Obstructed (Path.route path) o) ∧
    ∀ e, (f.mergeValues path additions).1 = .error e →
      (f.mergeValues path additions).2 = f ∧ e.path = path ∧
        f.values.Obstructed (Path.route path) e.obstruction := by
  refine ⟨⟨?_, ?_⟩, ?_⟩
  · rintro ⟨e, he⟩
    exact ⟨e.obstruction, (mergeValues_error_iff.mp he).2⟩
  · rintro ⟨o, ho⟩
    exact ⟨⟨path, o⟩, mergeValues_error_iff.mpr ⟨rfl, ho⟩⟩
  · intro e he
    exact ⟨mergeValues_snd_of_error he, mergeValues_error_iff.mp he⟩

end Form
end ComponentForm

import ComponentForm.Proofs.Form.Places

/-! The order of the search for an element. The candidates are all objects that are reached through items
of arrays and items of objects, an object before those under it and what is further left before what is
further right. The search returns the first of them whose key spells the field, and the triggers of the
field are read off that one. -/
namespace ComponentForm

namespace Document

/-- An object stands before all under it, and the items of an array before one another. -/
inductive Place.Before : Place → Place → Prop
  | above {step : Step} {p : Place} : Before [] (step :: p)
  | left {i j : Nat} {p q : Place} : i < j → Before (.item i :: p) (.item j :: q)
  | within {step : Step} {p q : Place} : Before p q → Before (step :: p) (step :: q)

theorem Place.Before.next {p q : Place} (h : p.Before q) : p.next.Before q.next := by
  cases h with
  | @above step p => cases step <;> exact .above
  | left hij => exact .left (Nat.succ_lt_succ hij)
  | @within step p q hpq => cases step <;> exact .within hpq

def Candidate.Before (a b : Candidate) : Prop := a.place.Before b.place

/-- A list of exactly the objects that the search can come to, in the order of their places. -/
structure ListsCandidates (d : Document) (cs : List Candidate) : Prop where
  mem_iff : ∀ c, c ∈ cs ↔ objectAt? c.place d = some c.members
  ordered : cs.Pairwise Candidate.Before

theorem mem_candidatesAmong {xs : List Document} {i : Nat} {x : Document} {p : Place} {ms : Members}
    (hx : xs[i]? = some x) (h : ⟨p, ms⟩ ∈ candidates x) :
    ⟨.item i :: p, ms⟩ ∈ candidatesAmong xs := by
  induction xs generalizing i with
  | nil => cases hx
  | cons y xs ih =>
    rw [candidatesAmong, List.mem_append]
    cases i with
    | zero =>
      obtain rfl : y = x := Option.some.inj hx
      exact .inl (List.mem_map.mpr ⟨_, h, rfl⟩)
    | succ i => exact .inr (List.mem_map.mpr ⟨_, ih hx, rfl⟩)

theorem mem_candidates_of_objectAt? {p : Place} {d : Document} {ms : Members}
    (h : objectAt? p d = some ms) : ⟨p, ms⟩ ∈ candidates d := by
  induction p generalizing d with
  | nil =>
    cases d with
    | object ns =>
      obtain rfl : ns = ms := Option.some.inj h
      exact List.mem_cons_self
    | _ => cases h
  | cons step p ih =>
    cases step with
    | item i =>
      cases d with
      | array xs =>
        obtain ⟨x, hx, hat⟩ := Option.bind_eq_some_iff.mp h
        exact mem_candidatesAmong hx (ih hat)
      | _ => cases h
    | items =>
      cases d with
      | object ns =>
        obtain ⟨v, hv, hat⟩ := Option.bind_eq_some_iff.mp h
        have hunder : ⟨p, ms⟩ ∈ candidatesUnder ns := by
          rw [candidatesUnder_eq, hv]
          exact ih hat
        exact List.mem_cons_of_mem _ (List.mem_map.mpr ⟨_, hunder, rfl⟩)
      | _ => cases h

theorem exists_item_of_mem_candidatesAmong {xs : List Document} {c : Candidate}
    (h : c ∈ candidatesAmong xs) : ∃ i p, c.place = .item i :: p := by
  have hat := objectAt?_of_mem_candidatesAmong xs h
  cases hplace : c.place with
  | nil => rw [hplace] at hat; cases hat
  | cons step p =>
    cases step with
    | item i => exact ⟨i, p, rfl⟩
    | items => rw [hplace] at hat; cases hat

theorem pairwise_map_under (step : Step) {cs : List Candidate} (h : cs.Pairwise Candidate.Before) :
    (cs.map (Candidate.under step)).Pairwise Candidate.Before :=
  List.pairwise_map.mpr (h.imp fun hbefore => Place.Before.within hbefore)

mutual
theorem pairwise_candidates (d : Document) : (candidates d).Pairwise Candidate.Before := by
  cases d with
  | array xs => exact pairwise_candidatesAmong xs
  | object ms =>
    rw [candidates, List.pairwise_cons]
    refine ⟨fun b hb => ?_, pairwise_map_under .items (pairwise_candidatesUnder ms)⟩
    obtain ⟨c, -, rfl⟩ := List.mem_map.mp hb
    exact .above
  | null => exact .nil
  | bool v => exact .nil
  | number n => exact .nil
  | string s => exact .nil

theorem pairwise_candidatesAmong (xs : List Document) :
    (candidatesAmong xs).Pairwise Candidate.Before := by
  cases xs with
  | nil => exact .nil
  | cons x xs =>
    have hlater : ((candidatesAmong xs).map Candidate.next).Pairwise Candidate.Before :=
      List.pairwise_map.mpr
        ((pairwise_candidatesAmong xs).imp fun hbefore => Place.Before.next hbefore)
    rw [candidatesAmong, List.pairwise_append]
    refine ⟨pairwise_map_under (.item 0) (pairwise_candidates x), hlater, fun a ha b hb => ?_⟩
    obtain ⟨c, -, rfl⟩ := List.mem_map.mp ha
    obtain ⟨c', hc', rfl⟩ := List.mem_map.mp hb
    obtain ⟨i, p, hplace⟩ := exists_item_of_mem_candidatesAmong hc'
    have hnext : (Candidate.next c').place = .item (i + 1) :: p := congrArg Place.next hplace
    rw [Candidate.Before, hnext]
    exact .left (Nat.succ_pos i)

theorem pairwise_candidatesUnder (ms : List (String × Document)) :
    (candidatesUnder ms).Pairwise Candidate.Before := by
  cases ms with
  | nil => exact .nil
  | cons e rest =>
    obtain ⟨name, v⟩ := e
    rw [candidatesUnder]
    split
    · exact pairwise_candidates v
    · exact pairwise_candidatesUnder rest
end

theorem listsCandidates_candidates (d : Document) : d.ListsCandidates d.candidates :=
  ⟨fun _ => ⟨objectAt?_of_mem_candidates d, mem_candidates_of_objectAt?⟩, pairwise_candidates d⟩

theorem mapM_asString?_eq_some_iff {xs : List Document} {ss : List String} :
    xs.mapM asString? = some ss ↔ xs = ss.map .string := by
  induction xs generalizing ss with
  | nil => simp [eq_comm]
  | cons x xs ih =>
    have hcons : (x :: xs).mapM asString? = some ss ↔
        ∃ s rest, asString? x = some s ∧ xs.mapM asString? = some rest ∧ s :: rest = ss := by
      simp [List.mapM_cons, Option.bind_eq_some_iff]
    simp only [hcons, asString?_eq_some_iff, ih]
    constructor
    · rintro ⟨s, rest, rfl, rfl, rfl⟩
      rfl
    · intro h
      cases ss with
      | nil => cases h
      | cons s rest =>
        obtain ⟨hx, hxs⟩ := List.cons.inj h
        exact ⟨s, rest, hx, hxs, rfl⟩

/-- The document is the field, or a list of texts that make the field with dots between them. -/
def Spells (field : String) (key : Document) : Prop :=
  key = .string field ∨
    ∃ pieces : List String, key = .array (pieces.map .string) ∧ Text.join "." pieces = field

theorem designates_iff {key : Document} {field : String} :
    key.designates field = true ↔ key.Spells field := by
  cases key with
  | string s => simp [designates, Spells]
  | array xs =>
    rw [designates, Spells]
    cases hxs : xs.mapM asString? with
    | none =>
      have hno : ∀ pieces : List String, xs ≠ pieces.map .string := by
        intro pieces h
        have hsome := mapM_asString?_eq_some_iff.mpr h
        rw [hxs] at hsome
        cases hsome
      simp [hno]
    | some pieces =>
      obtain rfl := mapM_asString?_eq_some_iff.mp hxs
      have hinj : ∀ other : List String,
          pieces.map Document.string = other.map .string ↔ pieces = other := by
        intro other
        exact List.map_inj_right fun _ _ h => Document.string.inj h
      simp [hinj]
  | _ => simp [designates, Spells]

def Candidate.Designates (field : String) (c : Candidate) : Prop :=
  ∃ key, c.members.value? "key" = some key ∧ key.Spells field

theorem Candidate.isElement_iff {field : String} {c : Candidate} :
    c.isElement field = true ↔ c.Designates field := by
  rw [Candidate.isElement, Document.isElement, Candidate.Designates]
  cases hkey : c.members.value? "key" with
  | none => simp
  | some key => simp [designates_iff]

/-- The candidate designates the field, and none of those before it in the list does. -/
def IsFirst (field : String) (cs : List Candidate) (c : Candidate) : Prop :=
  c.Designates field ∧ ∃ before after, cs = before ++ c :: after ∧ ∀ b ∈ before, ¬ b.Designates field

theorem firstElement?_eq_some_iff {field : String} {cs : List Candidate} {c : Candidate} :
    firstElement? field cs = some c ↔ IsFirst field cs c := by
  have hnot : ∀ b : Candidate, (!b.isElement field) = true ↔ ¬ b.Designates field := by
    intro b
    rw [← Candidate.isElement_iff, Bool.not_eq_true', Bool.not_eq_true]
  rw [firstElement?, List.find?_eq_some_iff_append, Candidate.isElement_iff, IsFirst]
  simp only [hnot]

theorem firstElement?_eq_none_iff {field : String} {cs : List Candidate} :
    firstElement? field cs = none ↔ ∀ c ∈ cs, ¬ c.Designates field := by
  rw [firstElement?, List.find?_eq_none]
  simp only [Candidate.isElement_iff]

end Document

namespace Form

/-- The triggers are those entries of the element's list of triggers that can be read as such, in their
order; without such a list there are none. -/
def Declares (ms : Members) (triggers : List Trigger) : Prop :=
  (∀ entries, ms.value? "triggers" = some (.array entries) →
    triggers = entries.filterMap Trigger.ofDocument?) ∧
  ((∀ entries, ms.value? "triggers" ≠ some (.array entries)) → triggers = [])

theorem declares_triggers {f : Form} {field : String} {ms : Members} (h : f.element? field = some ms) :
    Declares ms (f.triggers field) := by
  refine ⟨fun entries hentries => ?_, fun hno => ?_⟩
  · rw [triggers, h, Option.bind_some, hentries]
  · rw [triggers, h, Option.bind_some]
    split
    · next entries hentries => exact absurd hentries (hno entries)
    · rfl

theorem triggers_of_no_element {f : Form} {field : String} (h : f.element? field = none) :
    f.triggers field = [] := by
  rw [triggers, h, Option.bind_none]

/-- Of all objects that stand in arrays and under items, taken from the outside in and from left to right,
the element of a field is the first whose key spells the field. The triggers of the field are the
entries of its list that are triggers. Without such an object there is no element and no trigger. -/
theorem element_is_first_in_search_order (f : Form) (field : String) :
    ∃ cs, f.layout.ListsCandidates cs ∧
      (∀ ms, f.element? field = some ms ↔ ∃ c, Document.IsFirst field cs c ∧ c.members = ms) ∧
      (f.element? field = none ↔ ∀ c ∈ cs, ¬ c.Designates field) ∧
      (∀ c, Document.IsFirst field cs c → Declares c.members (f.triggers field)) ∧
      ((∀ c ∈ cs, ¬ c.Designates field) → f.triggers field = []) := by
  have helement : f.element? field =
      (Document.firstElement? field f.layout.candidates).map (·.members) :=
    Document.element?_eq field f.layout
  have hsome : ∀ ms, f.element? field = some ms ↔
      ∃ c, Document.IsFirst field f.layout.candidates c ∧ c.members = ms := by
    intro ms
    simp only [helement, Option.map_eq_some_iff, Document.firstElement?_eq_some_iff]
  have hnone : f.element? field = none ↔ ∀ c ∈ f.layout.candidates, ¬ c.Designates field := by
    rw [helement, Option.map_eq_none_iff, Document.firstElement?_eq_none_iff]
  refine ⟨f.layout.candidates, Document.listsCandidates_candidates f.layout, hsome, hnone, ?_, ?_⟩
  · intro c hc
    exact declares_triggers ((hsome c.members).mpr ⟨c, hc, rfl⟩)
  · intro hno
    exact triggers_of_no_element (hnone.mpr hno)

end Form
end ComponentForm

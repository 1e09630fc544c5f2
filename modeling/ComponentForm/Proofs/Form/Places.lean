import ComponentForm.Proofs.Form.Elements

/-! Places in a layout. The search for the element of a field goes through the items of arrays and the
items of objects, from the outside in and from the left to the right. The objects on its way, listed
in that order with the places where they stand, are the candidates; the element is the first candidate
whose key designates the field, and a change of the element is a change at its place. -/
namespace ComponentForm

namespace Entries

variable {α : Type u}

def modify (f : α → α) : Entries α → String → Entries α
  | [], _ => []
  | (name, v) :: rest, k => if name = k then (name, f v) :: rest else (name, v) :: modify f rest k

theorem value?_modify_of_ne (f : α → α) (es : Entries α) {k k' : String} (hne : k ≠ k') :
    value? (modify f es k) k' = value? es k' := by
  induction es with
  | nil => rfl
  | cons e rest ih =>
    obtain ⟨name, v⟩ := e
    by_cases h : name = k
    · subst h
      simp [modify, value?_cons, hne]
    · simp [modify, value?_cons, h, ih]

end Entries

namespace Document

inductive Step
  | item (i : Nat)
  | items
deriving DecidableEq

abbrev Place := List Step

def Place.next : Place → Place
  | .item i :: p => .item (i + 1) :: p
  | p => p

/-- An object that the search comes to, and the place where it stands. -/
structure Candidate where
  place : Place
  members : Members

namespace Candidate

def under (step : Step) (c : Candidate) : Candidate := { c with place := step :: c.place }

def next (c : Candidate) : Candidate := { c with place := Place.next c.place }

def isElement (field : String) (c : Candidate) : Bool := Document.isElement field c.members

theorem isElement_comp_under (field : String) (step : Step) :
    isElement field ∘ under step = isElement field := rfl

theorem isElement_comp_next (field : String) : isElement field ∘ next = isElement field := rfl

end Candidate

mutual
/-- The candidates in the order of the search. -/
def candidates : Document → List Candidate
  | .array xs => candidatesAmong xs
  | .object ms => ⟨[], ms⟩ :: (candidatesUnder ms).map (.under .items)
  | _ => []

def candidatesAmong : List Document → List Candidate
  | [] => []
  | x :: xs => (candidates x).map (.under (.item 0)) ++ (candidatesAmong xs).map .next

def candidatesUnder : List (String × Document) → List Candidate
  | [] => []
  | (k, v) :: ms => if k = "items" then candidates v else candidatesUnder ms
end

theorem candidatesUnder_eq (ms : Members) :
    candidatesUnder ms = ((Entries.value? ms "items").map candidates).getD [] := by
  induction ms with
  | nil => rfl
  | cons e rest ih =>
    rw [candidatesUnder, Entries.value?_cons, ih]
    split <;> rfl

def firstElement? (field : String) (cs : List Candidate) : Option Candidate :=
  cs.find? (Candidate.isElement field)

def candidate? (field : String) (d : Document) : Option Candidate :=
  firstElement? field d.candidates

def objectAt? : Place → Document → Option Members
  | [], .object ms => some ms
  | .item i :: p, .array xs => xs[i]?.bind (objectAt? p)
  | .items :: p, .object ms => (Entries.value? ms "items").bind (objectAt? p)
  | _, _ => none

theorem objectAt?_next (p : Place) (x : Document) (xs : List Document) :
    objectAt? p.next (.array (x :: xs)) = objectAt? p (.array xs) := by
  cases p with
  | nil => rfl
  | cons step p => cases step <;> rfl

mutual
theorem objectAt?_of_mem_candidates (d : Document) {c : Candidate} (h : c ∈ candidates d) :
    objectAt? c.place d = some c.members := by
  cases d with
  | array xs => exact objectAt?_of_mem_candidatesAmong xs h
  | object ms =>
    rw [candidates] at h
    rcases List.mem_cons.mp h with rfl | h
    · rfl
    · obtain ⟨c', hc', rfl⟩ := List.mem_map.mp h
      exact objectAt?_of_mem_candidatesUnder ms hc'
  | null => cases h
  | bool v => cases h
  | number n => cases h
  | string s => cases h

theorem objectAt?_of_mem_candidatesAmong (xs : List Document) {c : Candidate}
    (h : c ∈ candidatesAmong xs) : objectAt? c.place (.array xs) = some c.members := by
  cases xs with
  | nil => cases h
  | cons x xs =>
    rw [candidatesAmong] at h
    rcases List.mem_append.mp h with h | h
    · obtain ⟨c', hc', rfl⟩ := List.mem_map.mp h
      exact objectAt?_of_mem_candidates x hc'
    · obtain ⟨c', hc', rfl⟩ := List.mem_map.mp h
      exact (objectAt?_next c'.place x xs).trans (objectAt?_of_mem_candidatesAmong xs hc')

theorem objectAt?_of_mem_candidatesUnder (ms : List (String × Document)) {c : Candidate}
    (h : c ∈ candidatesUnder ms) :
    ((Entries.value? ms "items").bind fun d => objectAt? c.place d) = some c.members := by
  cases ms with
  | nil => cases h
  | cons e rest =>
    obtain ⟨name, v⟩ := e
    rw [candidatesUnder] at h
    rw [Entries.value?_cons]
    by_cases hname : name = "items"
    · rw [if_pos hname] at h ⊢
      exact objectAt?_of_mem_candidates v h
    · rw [if_neg hname] at h ⊢
      exact objectAt?_of_mem_candidatesUnder rest h
end

theorem objectAt?_of_candidate? {field : String} {d : Document} {c : Candidate}
    (h : candidate? field d = some c) : objectAt? c.place d = some c.members :=
  objectAt?_of_mem_candidates d (List.mem_of_find?_eq_some h)

def editAt (edit : Members → Members) : Place → Document → Document
  | [], .object ms => .object (edit ms)
  | .item i :: p, .array xs => .array (xs.modify i (editAt edit p))
  | .items :: p, .object ms => .object (Entries.modify (editAt edit p) ms "items")
  | _, d => d

def editItemsAt (edit : Members → Members) : Place → List Document → List Document
  | .item i :: p, xs => xs.modify i (editAt edit p)
  | _, xs => xs

theorem editAt_array (edit : Members → Members) (p : Place) (xs : List Document) :
    editAt edit p (.array xs) = .array (editItemsAt edit p xs) := by
  cases p with
  | nil => rfl
  | cons step p => cases step <;> rfl

theorem editItemsAt_next (edit : Members → Members) (p : Place) (x : Document) (xs : List Document) :
    editItemsAt edit p.next (x :: xs) = x :: editItemsAt edit p xs := by
  cases p with
  | nil => rfl
  | cons step p => cases step <;> rfl

section Search
variable (field : String)

theorem firstElement?_under (step : Step) (cs : List Candidate) :
    firstElement? field (cs.map (.under step)) = (firstElement? field cs).map (.under step) := by
  rw [firstElement?, List.find?_map, Candidate.isElement_comp_under, firstElement?]

theorem firstElement?_next (cs : List Candidate) :
    firstElement? field (cs.map .next) = (firstElement? field cs).map .next := by
  rw [firstElement?, List.find?_map, Candidate.isElement_comp_next, firstElement?]

theorem firstElement?_append (cs later : List Candidate) :
    firstElement? field (cs ++ later) = (firstElement? field cs).or (firstElement? field later) :=
  List.find?_append

theorem firstElement?_candidatesAmong_cons (x : Document) (xs : List Document) :
    firstElement? field (candidatesAmong (x :: xs)) =
      ((candidate? field x).map (.under (.item 0))).or
        ((firstElement? field (candidatesAmong xs)).map .next) := by
  rw [candidatesAmong, firstElement?_append, firstElement?_under, firstElement?_next, candidate?]

theorem candidate?_object (ms : Members) :
    candidate? field (.object ms) =
      if isElement field ms then some ⟨[], ms⟩
      else (firstElement? field (candidatesUnder ms)).map (.under .items) := by
  rw [candidate?, candidates, ← firstElement?_under, firstElement?, List.find?_cons, Candidate.isElement]
  cases isElement field ms <;> rfl

mutual
/-- The element of a field is the first candidate that its key makes one. -/
theorem element?_eq (d : Document) : element? field d = (candidate? field d).map (·.members) := by
  cases d with
  | array xs => exact elementAmong?_eq xs
  | object ms =>
    rw [element?, candidate?_object, elementUnder?_eq]
    split
    · rfl
    · rw [Option.map_map]; rfl
  | null => rfl
  | bool v => rfl
  | number n => rfl
  | string s => rfl

theorem elementAmong?_eq (xs : List Document) :
    elementAmong? field xs = (firstElement? field (candidatesAmong xs)).map (·.members) := by
  cases xs with
  | nil => rfl
  | cons x xs =>
    rw [elementAmong?, element?_eq, elementAmong?_eq, firstElement?_candidatesAmong_cons]
    cases candidate? field x with
    | some c => rfl
    | none =>
      rw [Option.map_none, Option.map_none, Option.none_or, Option.none_or, Option.map_map]
      rfl

theorem elementUnder?_eq (ms : List (String × Document)) :
    elementUnder? field ms = (firstElement? field (candidatesUnder ms)).map (·.members) := by
  cases ms with
  | nil => rfl
  | cons e rest =>
    obtain ⟨name, v⟩ := e
    rw [elementUnder?, candidatesUnder]
    by_cases hname : name = "items"
    · rw [if_pos hname, if_pos hname]
      exact element?_eq v
    · rw [if_neg hname, if_neg hname]
      exact elementUnder?_eq rest
end

variable (edit : Members → Members)

mutual
/-- The element of a field is changed where the search finds it. -/
theorem editElement?_eq (d : Document) :
    editElement? field edit d = (candidate? field d).map fun c => editAt edit c.place d := by
  cases d with
  | array xs =>
    rw [editElement?, editAmong?_eq, Option.map_map]
    simp only [editAt_array]
    rfl
  | object ms =>
    rw [editElement?, candidate?_object, editUnder?_eq]
    split
    · rfl
    · rw [Option.map_map, Option.map_map]; rfl
  | null => rfl
  | bool v => rfl
  | number n => rfl
  | string s => rfl

theorem editAmong?_eq (xs : List Document) :
    editAmong? field edit xs =
      (firstElement? field (candidatesAmong xs)).map fun c => editItemsAt edit c.place xs := by
  cases xs with
  | nil => rfl
  | cons x xs =>
    rw [firstElement?_candidatesAmong_cons]
    have hx := editElement?_eq x
    cases hc : candidate? field x with
    | some c =>
      rw [hc] at hx
      rw [editAmong?_cons_of_some hx]
      rfl
    | none =>
      rw [hc] at hx
      rw [editAmong?_cons_of_none hx, editAmong?_eq xs, Option.map_none, Option.none_or, Option.map_map,
        Option.map_map]
      congr 1
      funext c
      exact (editItemsAt_next edit c.place x xs).symm

theorem editUnder?_eq (ms : List (String × Document)) :
    editUnder? field edit ms = (firstElement? field (candidatesUnder ms)).map fun c =>
      Entries.modify (editAt edit c.place) ms "items" := by
  cases ms with
  | nil => rfl
  | cons e rest =>
    obtain ⟨name, v⟩ := e
    rw [editUnder?, candidatesUnder]
    simp only [Entries.modify]
    by_cases hname : name = "items"
    · simp only [if_pos hname]
      rw [editElement?_eq, Option.map_map]
      rfl
    · simp only [if_neg hname]
      rw [editUnder?_eq, Option.map_map]
      rfl
end

end Search
end Document
end ComponentForm

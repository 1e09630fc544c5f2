import ComponentForm.Proofs.Form.Independence
import ComponentForm.Proofs.Form.Places

/-! What outcomes leave of the structure of a form. Schema and further members are out of their reach.
Offers write into the layout, but the member that they write is neither a key nor items, so that the
search for any field goes the same way before and after, to the same place, and meets the same
triggers there. -/
namespace ComponentForm

namespace Entries

variable {α : Type u}

theorem remove_put_self (es : Entries α) (k : String) (v : α) : remove (put es k v) k = remove es k := by
  induction es with
  | nil => simp [put, remove]
  | cons e rest ih => by_cases h : e.1 = k <;> simp [put, remove, h, ih]

theorem modify_put_of_ne (f : α → α) (es : Entries α) {k k' : String} (v : α) (hne : k ≠ k') :
    modify f (put es k v) k' = put (modify f es k') k v := by
  induction es with
  | nil => simp [put, modify, hne]
  | cons e rest ih =>
    obtain ⟨name, w⟩ := e
    by_cases h : name = k
    · subst h
      simp [put, modify, hne]
    · by_cases h' : name = k'
      · subst h'
        simp [put, modify, h]
      · simp [put, modify, h, h', ih]

theorem modify_modify (f g : α → α) (es : Entries α) (k : String) :
    modify g (modify f es k) k = modify (g ∘ f) es k := by
  induction es with
  | nil => rfl
  | cons e rest ih => by_cases h : e.1 = k <;> simp [modify, h, ih]

end Entries

namespace Document

/-- What the search sees of a candidate if it looks neither at the member `k` nor at the items. -/
def Candidate.seen (k : String) (c : Candidate) : Place × (String → Option Document) :=
  (c.place, fun name => if name = k ∨ name = "items" then none else c.members.value? name)

/-- All that a search which does not look at the member `k` sees of a layout. -/
def sight (k : String) (d : Document) : List (Place × (String → Option Document)) :=
  d.candidates.map (Candidate.seen k)

namespace Candidate
variable {k : String}

theorem seen_of_value?_eq (p : Place) {ms ns : Members}
    (h : ∀ name, name ≠ k → name ≠ "items" → ns.value? name = ms.value? name) :
    seen k ⟨p, ns⟩ = seen k ⟨p, ms⟩ := by
  rw [seen, seen, Prod.mk.injEq]
  refine ⟨rfl, funext fun name => ?_⟩
  by_cases hname : name = k ∨ name = "items"
  · rw [if_pos hname, if_pos hname]
  · rw [if_neg hname, if_neg hname]
    exact h name (fun h => hname (Or.inl h)) fun h => hname (Or.inr h)

theorem map_seen_under (step : Step) (cs : List Candidate) :
    (cs.map (.under step)).map (seen k) = (cs.map (seen k)).map (Prod.map (step :: ·) id) := by
  rw [List.map_map, List.map_map]
  rfl

theorem map_seen_next (cs : List Candidate) :
    (cs.map next).map (seen k) = (cs.map (seen k)).map (Prod.map Place.next id) := by
  rw [List.map_map, List.map_map]
  rfl

theorem seen_snd {name : String} (hname : name ≠ k) (hitems : name ≠ "items") (c : Candidate) :
    (c.seen k).2 name = c.members.value? name := by
  refine if_neg ?_
  rintro (h | h)
  · exact hname h
  · exact hitems h

theorem isElement_eq_of_seen (hkey : k ≠ "key") (field : String) (c : Candidate) :
    c.isElement field = ((c.seen k).2 "key").any (·.designates field) := by
  rw [seen_snd (Ne.symm hkey) (by decide), isElement, Document.isElement]
  cases c.members.value? "key" <;> rfl

end Candidate

section Edit
variable {k : String} {v : Document}

theorem candidatesUnder_put (hitems : k ≠ "items") (ms : Members) :
    candidatesUnder (ms.put k v) = candidatesUnder ms := by
  induction ms with
  | nil => simp [Entries.put, candidatesUnder, hitems]
  | cons e rest ih =>
    obtain ⟨name, w⟩ := e
    by_cases hname : name = k
    · subst hname
      simp [Entries.put, candidatesUnder, hitems]
    · simp [Entries.put, candidatesUnder, hname, ih]

theorem map_seen_candidatesUnder_modify {f : Document → Document} (h : ∀ d, sight k (f d) = sight k d)
    (ms : Members) :
    (candidatesUnder (Entries.modify f ms "items")).map (Candidate.seen k) =
      (candidatesUnder ms).map (Candidate.seen k) := by
  induction ms with
  | nil => rfl
  | cons e rest ih =>
    obtain ⟨name, w⟩ := e
    by_cases hname : name = "items"
    · simpa [Entries.modify, candidatesUnder, hname, sight] using h w
    · simpa [Entries.modify, candidatesUnder, hname] using ih

theorem map_seen_candidatesAmong_modify {f : Document → Document} (h : ∀ d, sight k (f d) = sight k d)
    (xs : List Document) (i : Nat) :
    (candidatesAmong (xs.modify i f)).map (Candidate.seen k) = (candidatesAmong xs).map (Candidate.seen k) := by
  induction xs generalizing i with
  | nil => rw [List.modify_nil]
  | cons x xs ih =>
    cases i with
    | zero =>
      have hx := h x
      simp only [sight] at hx
      rw [List.modify_zero_cons, candidatesAmong, candidatesAmong, List.map_append, List.map_append,
        Candidate.map_seen_under, Candidate.map_seen_under, hx]
    | succ i =>
      rw [List.modify_succ_cons, candidatesAmong, candidatesAmong, List.map_append, List.map_append,
        Candidate.map_seen_next, Candidate.map_seen_next, ih]

theorem sight_editAt (hitems : k ≠ "items") (p : Place) (d : Document) :
    sight k (editAt (·.put k v) p d) = sight k d := by
  induction p generalizing d with
  | nil =>
    cases d with
    | object ms =>
      have hms : Candidate.seen k ⟨[], Entries.put ms k v⟩ = Candidate.seen k ⟨[], ms⟩ :=
        Candidate.seen_of_value?_eq [] fun _ hname _ => Entries.value?_put_of_ne ms v (Ne.symm hname)
      simp only [sight, editAt, candidates, List.map_cons, hms, candidatesUnder_put hitems]
    | _ => rfl
  | cons step p ih =>
    cases step with
    | item i =>
      cases d with
      | array xs => exact map_seen_candidatesAmong_modify ih xs i
      | _ => rfl
    | items =>
      cases d with
      | object ms =>
        have hms : Candidate.seen k ⟨[], Entries.modify (editAt (·.put k v) p) ms "items"⟩ =
            Candidate.seen k ⟨[], ms⟩ :=
          Candidate.seen_of_value?_eq [] fun _ _ hname =>
            Entries.value?_modify_of_ne _ ms (Ne.symm hname)
        simp only [sight, editAt, candidates, List.map_cons, hms, Candidate.map_seen_under,
          map_seen_candidatesUnder_modify ih]
      | _ => rfl

end Edit

/-- Layouts that look alike have the elements of all fields at the same places, with the same members
as far as they are seen. -/
theorem candidate?_of_sight {k : String} (hkey : k ≠ "key") {d e : Document}
    (h : sight k e = sight k d) (field : String) :
    (candidate? field e).map (Candidate.seen k) = (candidate? field d).map (Candidate.seen k) := by
  have hfind : ∀ d : Document, (candidate? field d).map (Candidate.seen k) =
      (sight k d).find? fun s => (s.2 "key").any (·.designates field) := by
    intro d
    rw [sight, List.find?_map, candidate?, firstElement?]
    congr 2
    funext c
    exact Candidate.isElement_eq_of_seen hkey field c
  rw [hfind, hfind, h]

theorem exists_candidate?_of_sight {k : String} (hkey : k ≠ "key") {d e : Document}
    (h : sight k e = sight k d) {field : String} {c : Candidate} (hc : candidate? field e = some c) :
    ∃ c', candidate? field d = some c' ∧ c'.place = c.place := by
  have hcandidate := candidate?_of_sight hkey h field
  rw [hc, Option.map_some, eq_comm, Option.map_eq_some_iff] at hcandidate
  obtain ⟨c', hc', hseen⟩ := hcandidate
  exact ⟨c', hc', congrArg Prod.fst hseen⟩

theorem value?_element?_of_sight {k name : String} (hkey : k ≠ "key") (hname : name ≠ k)
    (hitems : name ≠ "items") {d e : Document} (h : sight k e = sight k d) (field : String) :
    ((element? field e).bind fun ms => Entries.value? ms name) =
      (element? field d).bind fun ms => Entries.value? ms name := by
  have hseen : ∀ d : Document, ((element? field d).bind fun ms => Entries.value? ms name) =
      ((candidate? field d).map (Candidate.seen k)).bind fun s => s.2 name := by
    intro d
    rw [element?_eq]
    cases candidate? field d with
    | none => rfl
    | some c => exact (Candidate.seen_snd hname hitems c).symm
  rw [hseen, hseen, candidate?_of_sight hkey h]

mutual
/-- The layout without the member `k` in the objects at the chosen places. -/
def without (k : String) (chosen : Place → Bool) : Document → Document
  | .array xs => .array (withoutAmong k chosen xs)
  | .object ms =>
    let ms := withoutUnder k (fun p => chosen (.items :: p)) ms
    .object (if chosen [] then Entries.remove ms k else ms)
  | d => d

def withoutAmong (k : String) (chosen : Place → Bool) : List Document → List Document
  | [] => []
  | x :: xs =>
    without k (fun p => chosen (.item 0 :: p)) x :: withoutAmong k (fun p => chosen p.next) xs

def withoutUnder (k : String) (chosen : Place → Bool) :
    List (String × Document) → List (String × Document)
  | [] => []
  | (name, v) :: ms =>
    if name = "items" then (name, without k chosen v) :: ms
    else (name, v) :: withoutUnder k chosen ms
end

section Without
variable {k : String} {v : Document} {chosen : Place → Bool}

theorem withoutUnder_eq (ms : Members) :
    withoutUnder k chosen ms = Entries.modify (without k chosen) ms "items" := by
  induction ms with
  | nil => rfl
  | cons e rest ih => rw [withoutUnder, Entries.modify, ih]

theorem withoutAmong_modify {f : Document → Document} {i : Nat}
    (h : ∀ d, without k (fun p => chosen (.item i :: p)) (f d) =
      without k (fun p => chosen (.item i :: p)) d) (xs : List Document) :
    withoutAmong k chosen (xs.modify i f) = withoutAmong k chosen xs := by
  induction xs generalizing i chosen with
  | nil => rw [List.modify_nil]
  | cons x xs ih =>
    cases i with
    | zero => rw [List.modify_zero_cons, withoutAmong, withoutAmong, h]
    | succ i =>
      rw [List.modify_succ_cons, withoutAmong, withoutAmong]
      exact congrArg _ (ih h)

theorem without_editAt (hitems : k ≠ "items") {p : Place} (hp : chosen p = true) (d : Document) :
    without k chosen (editAt (·.put k v) p d) = without k chosen d := by
  induction p generalizing chosen d with
  | nil =>
    cases d with
    | object ms =>
      simp only [editAt, without, withoutUnder_eq, hp, if_true, Entries.modify_put_of_ne _ _ _ hitems,
        Entries.remove_put_self]
    | _ => rfl
  | cons step p ih =>
    cases step with
    | item i =>
      cases d with
      | array xs => exact congrArg Document.array (withoutAmong_modify (fun d => ih hp d) xs)
      | _ => rfl
    | items =>
      cases d with
      | object ms =>
        have hunder : without k (fun p => chosen (.items :: p)) ∘ editAt (·.put k v) p =
            without k fun p => chosen (.items :: p) := funext fun d => ih hp d
        simp only [editAt, without, withoutUnder_eq, Entries.modify_modify, hunder]
      | _ => rfl

end Without
end Document

namespace Form

/-- The places of the elements that the offers among the outcomes are for. -/
def offeredPlaces (f : Form) (outcomes : List Outcome) : List Document.Place :=
  outcomes.filterMap fun
    | .offered field _ => (f.layout.candidate? field).map (·.place)
    | _ => none

/-- The invariant of all outcomes: `g` has come from `f` by offers for elements at the places. -/
structure Keeps (places : List Document.Place) (f g : Form) : Prop where
  schema : g.schema = f.schema
  extra : g.extra = f.extra
  sight : g.layout.sight "titleMap" = f.layout.sight "titleMap"
  layout : g.layout.without "titleMap" (· ∈ places) = f.layout.without "titleMap" (· ∈ places)

namespace Keeps

variable {places : List Document.Place} {f g : Form}

theorem refl (f : Form) : Keeps places f f :=
  ⟨rfl, rfl, rfl, rfl⟩

theorem offered (h : Keeps places f g) {field : String} (choices : List Choice)
    (hplace : ∀ c ∈ f.layout.candidate? field, c.place ∈ places) :
    Keeps places f (g.absorb (.offered field choices)).2 := by
  rw [absorb_offered, tried, Document.editElement?_eq]
  cases hc : g.layout.candidate? field with
  | none => exact h
  | some c =>
    obtain ⟨c', hc', hplace'⟩ := Document.exists_candidate?_of_sight (by decide) h.sight hc
    have hp : c.place ∈ places := hplace' ▸ hplace c' hc'
    exact ⟨h.schema, h.extra, (Document.sight_editAt (by decide) _ _).trans h.sight,
      (Document.without_editAt (by decide) (decide_eq_true hp) _).trans h.layout⟩

theorem absorb (h : Keeps places f g) {o : Outcome} (hplaces : f.offeredPlaces [o] ⊆ places) :
    Keeps places f (g.absorb o).2 := by
  cases o with
  | checked field verdict comment =>
    cases verdict with
    | ok =>
      rw [absorb_checked_ok]
      exact ⟨h.schema, h.extra, h.sight, h.layout⟩
    | ko => exact ⟨h.schema, h.extra, h.sight, h.layout⟩
  | offered field choices =>
    refine h.offered choices fun c hc => hplaces ?_
    rw [Option.mem_def] at hc
    simp [offeredPlaces, hc]
  | updated field values => exact ⟨h.schema, h.extra, h.sight, h.layout⟩
  | health verdict comment => exact h
  | fragment kind body => exact h

theorem run (h : Keeps places f g) {outcomes : List Outcome}
    (hplaces : f.offeredPlaces outcomes ⊆ places) :
    Keeps places f (outcomes.foldl (fun g o => (g.absorb o).2) g) := by
  induction outcomes generalizing g with
  | nil => exact h
  | cons o outcomes ih =>
    have hcons : f.offeredPlaces ([o] ++ outcomes) = f.offeredPlaces [o] ++ f.offeredPlaces outcomes :=
      List.filterMap_append
    rw [List.singleton_append] at hcons
    rw [hcons, List.append_subset] at hplaces
    exact ih (h.absorb hplaces.1) hplaces.2

end Keeps

/-- Outcomes, taken over or refused, leave the schema and the further members of a form as they are,
every field keeps its triggers, and the layout is the same but for the title maps of the elements that
offers were for. -/
theorem outcomes_keep_structure (f : Form) (outcomes : List Outcome) :
    let g := outcomes.foldl (fun g o => (g.absorb o).2) f
    let titled := f.offeredPlaces outcomes
    g.schema = f.schema ∧ g.extra = f.extra ∧
      (∀ field, g.triggers field = f.triggers field) ∧
      g.layout.without "titleMap" (· ∈ titled) = f.layout.without "titleMap" (· ∈ titled) := by
  intro g titled
  have h : Keeps titled f g := (Keeps.refl f).run (List.Subset.refl titled)
  refine ⟨h.schema, h.extra, fun field => ?_, h.layout⟩
  have htriggers : ((g.element? field).bind fun ms => ms.value? "triggers") =
      (f.element? field).bind fun ms => ms.value? "triggers" :=
    Document.value?_element?_of_sight (by decide) (by decide) (by decide) h.sight field
  simp only [triggers, htriggers]

end Form
end ComponentForm

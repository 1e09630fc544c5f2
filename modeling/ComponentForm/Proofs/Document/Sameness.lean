import ComponentForm.Proofs.Document.Distinct
import ComponentForm.Proofs.Document.Target

/-! When a change makes no difference. A document with another part in some place is the same as before
exactly if the part is the same as the one that was there; what goes where nothing was, or only a null,
always makes a difference. Sameness is no equality: members may stand in another order, and the two
zeros are one number. -/
namespace ComponentForm
namespace Document

theorem Distinct.same_self {d : Document} (h : d.Distinct) : d.same d = true :=
  (Alike.refl d).same h

theorem sameMembers_iff {ms ns : Members} :
    sameMembers ms ns = true ↔
      ∀ k v, (k, v) ∈ ms → ∃ w, Entries.value? ns k = some w ∧ v.same w = true := by
  induction ms with
  | nil => simp [sameMembers]
  | cons e ms ih =>
    obtain ⟨name, u⟩ := e
    have hcons : sameMembers ((name, u) :: ms) ns = true ↔
        (∃ w, Entries.value? ns name = some w ∧ u.same w = true) ∧ sameMembers ms ns = true := by
      rw [sameMembers]
      cases Entries.value? ns name <;> simp
    rw [hcons, ih]
    constructor
    · rintro ⟨hu, hms⟩ k v hmem
      rcases List.mem_cons.mp hmem with heq | hmem
      · cases heq
        exact hu
      · exact hms k v hmem
    · exact fun h => ⟨h name u List.mem_cons_self, fun k v hmem => h k v (List.mem_cons_of_mem _ hmem)⟩

theorem same_object_iff {ms ns : Members} :
    (object ms).same (object ns) = true ↔ ms.length = ns.length ∧
      ∀ k v, (k, v) ∈ ms → ∃ w, Entries.value? ns k = some w ∧ v.same w = true := by
  rw [same, Bool.and_eq_true, sameMembers_iff, decide_eq_true_eq]

/-- The members have the values already, up to sameness. -/
def Has (ms values : Members) : Prop :=
  ∀ k v, (k, v) ∈ values → ∃ old, Entries.value? ms k = some old ∧ old.same v = true

theorem Has.exists_of_mem_names {ms values : Members} (h : Has ms values) {k : String}
    (hk : k ∈ Entries.names values) :
    ∃ v old, (k, v) ∈ values ∧ Entries.value? ms k = some old ∧ old.same v = true := by
  obtain ⟨e, he, rfl⟩ := List.mem_map.mp hk
  obtain ⟨old, hold, hsame⟩ := h e.1 e.2 he
  exact ⟨e.2, old, he, hold, hsame⟩

/-- Additions make no difference to members that have them; any other either brings a new name, or a
value that is not the same. -/
theorem same_putAll {ms values : Members} (hms : (object ms).Distinct)
    (hvalues : (Entries.names values).Nodup) :
    (object ms).same (object (Entries.putAll ms values)) = true ↔ Has ms values := by
  have hmerged := Entries.merged_putAll hvalues ms
  have hlength : ms.length = (Entries.putAll ms values).length ↔
      (Entries.names values).filter (· ∉ Entries.names ms) = [] := by
    have hcount := congrArg List.length hmerged.names_eq
    simp only [Entries.names, List.length_map, List.length_append] at hcount
    rw [← List.length_eq_zero_iff, hcount]
    simp [Entries.names]
  rw [same_object_iff, hlength, List.filter_eq_nil_iff]
  rw [distinct_object] at hms
  constructor
  · rintro ⟨hnames, hsame⟩ k v hmem
    have hk : k ∈ Entries.names ms := by simpa using hnames k (List.mem_map_of_mem hmem)
    obtain ⟨old, hold⟩ := Option.isSome_iff_exists.mp ((Entries.has_iff_mem_names ms k).mpr hk)
    obtain ⟨w, hw, holdw⟩ := hsame k old (Entries.mem_of_value? hold)
    rw [hmerged.added k v hmem, Option.some.injEq] at hw
    exact ⟨old, hold, hw ▸ holdw⟩
  · intro hhas
    refine ⟨fun k hk => ?_, fun k v hmem => ?_⟩
    · obtain ⟨v, old, -, hold, -⟩ := hhas.exists_of_mem_names hk
      have hmem : k ∈ Entries.names ms := List.mem_map_of_mem (Entries.mem_of_value? hold)
      simpa using hmem
    · have hv : Entries.value? ms k = some v := Entries.value?_of_mem hms.1 hmem
      by_cases hk : k ∈ Entries.names values
      · obtain ⟨w, old, hadded, hold, hsame⟩ := hhas.exists_of_mem_names hk
        rw [hv, Option.some.injEq] at hold
        exact ⟨w, hmerged.added k w hadded, hold ▸ hsame⟩
      · exact ⟨v, (hmerged.kept k hk).trans hv, (hms.2 (k, v) hmem).same_self⟩

theorem has_singleton {ms : Members} {k : String} {v : Document} :
    Has ms [(k, v)] ↔ ∃ old, Entries.value? ms k = some old ∧ old.same v = true := by
  simp [Has]

theorem same_put {ms : Members} (hms : (object ms).Distinct) (k : String) (v : Document) :
    (object ms).same (object (Entries.put ms k v)) = true ↔ Has ms [(k, v)] :=
  have hname : (Entries.names [(k, v)]).Nodup := by simp [Entries.names]
  same_putAll hms hname

theorem sameItems_set {xs : List Document} {i : Nat} {item : Document} (hxs : DistinctItems xs)
    (hitem : xs[i]? = some item) (v : Document) : sameItems xs (xs.set i v) = item.same v := by
  induction xs generalizing i with
  | nil => cases hitem
  | cons x xs ih =>
    rw [DistinctItems] at hxs
    cases i with
    | zero =>
      obtain rfl : x = item := by simpa using hitem
      rw [List.set_cons_zero, sameItems, Alike.sameItems (Alike.refl_items xs) hxs.2, Bool.and_true]
    | succ i =>
      rw [List.getElem?_cons_succ] at hitem
      rw [List.set_cons_succ, sameItems, hxs.1.same_self, Bool.true_and, ih hxs.2 hitem]

theorem same_withChild {d : Document} {segment : String} (hd : d.Distinct) (h : d.Takes segment)
    (c : Document) :
    d.same (d.withChild segment c) = true ↔ ∃ old, d.step? segment = some old ∧ old.same c = true := by
  cases h with
  | null => simp [withChild, same, step?]
  | object ms => exact (same_put hd segment c).trans has_singleton
  | @array xs segment i item hi hitem =>
    rw [Distinct] at hd
    have hwith : (array xs).withChild segment c = array (xs.set i c) := by simp only [withChild, hi]
    rw [hwith, same, sameItems_set hd hitem, step?, hi]
    simp [hitem]

theorem Distinct.childAt {d : Document} (h : d.Distinct) (segment : String) :
    (d.childAt segment).Distinct := by
  rw [Document.childAt]
  cases hstep : d.step? segment with
  | none => trivial
  | some child =>
    cases d with
    | object ms => exact h.value hstep
    | array xs =>
      obtain ⟨i, -, hitem⟩ := Option.bind_eq_some_iff.mp hstep
      exact distinct_array.mp h child (List.mem_of_getElem? hitem)
    | _ => cases hstep

/-- A walk makes no difference exactly if it comes to an object that has the values already. -/
theorem same_walk {values : Members} (hvalues : (Entries.names values).Nodup) {d : Document}
    (hd : d.Distinct) {route : List String} (h : (walk values d route).1 = .ok ()) :
    d.same (walk values d route).2 = true ↔
      ∃ ms, d.follow? route = some (.object ms) ∧ Has ms values := by
  induction route generalizing d with
  | nil =>
    cases d with
    | null => simp [walk, opened, same]
    | object ms =>
      have hwalk : (walk values (.object ms) []).2 = .object (Entries.putAll ms values) := rfl
      rw [hwalk, same_putAll hd hvalues]
      simp
    | _ => cases h
  | cons segment rest ih =>
    have htakes := takes_of_walk_ok h
    have hchild := ih (hd.childAt segment) (walk_childAt_ok h)
    rw [walk_of_takes htakes, same_withChild hd htakes, follow?]
    rw [childAt] at hchild ⊢
    cases hstep : d.step? segment with
    | none => simp
    | some child =>
      rw [hstep, Option.getD_some] at hchild
      simpa using hchild

end Document
end ComponentForm

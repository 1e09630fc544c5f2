import ComponentForm.Proofs.Document.Agreement

/-! Two runs on related documents. Twins are documents without repeated names, related as an orderless
relation has it. Whatever is read in twins at one path are twins, and a walk through the one comes to
the same end as a walk through the other and leaves twins behind. -/
namespace ComponentForm

section Items
variable {α : Type u} {R : α → α → Prop}

theorem rel_getElem? {xs ys : List α} (h : List.Forall₂ R xs ys) (i : Nat) :
    Option.Rel R xs[i]? ys[i]? := by
  induction h generalizing i with
  | nil => exact .none
  | cons hxy _ ih =>
    cases i with
    | zero => exact .some hxy
    | succ i => exact ih i

theorem forall₂_modify {xs ys : List α} (h : List.Forall₂ R xs ys) {f g : α → α}
    (hfg : ∀ v w, R v w → R (f v) (g w)) (i : Nat) :
    List.Forall₂ R (xs.modify i f) (ys.modify i g) := by
  induction h generalizing i with
  | nil => rw [List.modify_nil, List.modify_nil]; exact .nil
  | cons hxy hrest ih =>
    cases i with
    | zero => exact .cons (hfg _ _ hxy) hrest
    | succ i => exact .cons hxy (ih i)

theorem forall₂_set {xs ys : List α} (h : List.Forall₂ R xs ys) (i : Nat) {v w : α} (hvw : R v w) :
    List.Forall₂ R (xs.set i v) (ys.set i w) := by
  rw [List.set_eq_modify, List.set_eq_modify]
  exact forall₂_modify h (fun _ _ _ => hvw) i

theorem rel_find? {p : α → Bool} (hp : ∀ a b, R a b → p a = p b) {as bs : List α}
    (h : List.Forall₂ R as bs) : Option.Rel R (as.find? p) (bs.find? p) := by
  induction h with
  | nil => exact .none
  | @cons a b as bs hab _ ih =>
    rw [List.find?_cons, List.find?_cons, ← hp a b hab]
    split
    · exact .some hab
    · exact ih

theorem filterMap_eq_of_forall₂ {β : Type v} {f : α → Option β} (hf : ∀ a b, R a b → f a = f b)
    {as bs : List α} (h : List.Forall₂ R as bs) : as.filterMap f = bs.filterMap f := by
  induction h with
  | nil => rfl
  | cons hab _ ih => rw [List.filterMap_cons, List.filterMap_cons, hf _ _ hab, ih]

end Items

namespace Document

/-- Related documents without repeated names. -/
structure Twins (r : Document → Document → Prop) (d e : Document) : Prop where
  related : r d e
  left : d.Distinct
  right : e.Distinct

namespace Twins
variable {r : Document → Document → Prop} {d e : Document} {ms ns : Members} {xs ys : List Document}

theorem rel {a b : Option Document} (h : Option.Rel r a b) (ha : ∀ d ∈ a, d.Distinct)
    (hb : ∀ d ∈ b, d.Distinct) : Option.Rel (Twins r) a b := by
  cases h with
  | none => exact .none
  | some hvw => exact .some ⟨hvw, ha _ rfl, hb _ rfl⟩

theorem refl (hr : Orderless r) (h : d.Distinct) : Twins r d d := ⟨hr.refl h, h, h⟩

theorem items (hxs : ∀ x ∈ xs, x.Distinct) (hys : ∀ y ∈ ys, y.Distinct) (h : List.Forall₂ r xs ys) :
    List.Forall₂ (Twins r) xs ys := by
  induction h with
  | nil => exact .nil
  | cons hxy _ ih =>
    rw [List.forall_mem_cons] at hxs hys
    exact .cons ⟨hxy, hxs.1, hys.1⟩ (ih hxs.2 hys.2)

theorem matched (hr : Orderless r) (h : Twins r d e) : Matched (Twins r) d e := by
  have hmatched := (hr.iff h.left h.right).mp h.related
  cases hmatched with
  | null => exact .null
  | bool b => exact .bool b
  | number _ => exact .number h
  | string s => exact .string s
  | array hitems =>
    exact .array (items (distinct_array.mp h.left) (distinct_array.mp h.right) hitems)
  | object hagree =>
    exact .object fun k => rel (hagree k) (fun _ hv => h.left.value hv) fun _ hw => h.right.value hw

theorem array (hr : Orderless r) (h : List.Forall₂ (Twins r) xs ys) : Twins r (.array xs) (.array ys) := by
  have hleft := h.imp fun _ _ hxy => And.intro hxy.left hxy.related
  have hright : List.Forall₂ (fun y x => y.Distinct ∧ Twins r x y) ys xs :=
    (h.imp fun _ _ hxy => And.intro hxy.right hxy).flip
  have hxs := distinct_array.mpr ((List.forall₂_and_left xs ys).mp hleft).1
  have hys := distinct_array.mpr ((List.forall₂_and_left ys xs).mp hright).1
  exact ⟨(hr.iff hxs hys).mpr (.array (h.imp fun _ _ hxy => hxy.related)), hxs, hys⟩

theorem object_iff (hr : Orderless r) :
    Twins r (.object ms) (.object ns) ↔
      (Entries.names ms).Nodup ∧ (Entries.names ns).Nodup ∧ Entries.Agree (Twins r) ms ns := by
  constructor
  · intro h
    cases h.matched hr with
    | object hagree => exact ⟨(distinct_object.mp h.left).1, (distinct_object.mp h.right).1, hagree⟩
  · rintro ⟨hms, hns, hagree⟩
    have hleft := distinct_object.mpr ⟨hms, hagree.forall_left hms fun _ _ hvw => hvw.left⟩
    have hright := distinct_object.mpr ⟨hns, hagree.forall_right hns fun _ _ hvw => hvw.right⟩
    have hmatched : Matched r (.object ms) (.object ns) :=
      .object (hagree.imp fun _ _ hvw => hvw.related)
    exact ⟨(hr.iff hleft hright).mpr hmatched, hleft, hright⟩

section Operations
variable (hr : Orderless r)
include hr

theorem step? (h : Twins r d e) (segment : String) :
    Option.Rel (Twins r) (d.step? segment) (e.step? segment) := by
  cases h.matched hr with
  | object hagree => exact hagree segment
  | array hitems =>
    rw [Document.step?, Document.step?]
    cases Text.readCount? Text.wordLimit segment with
    | none => exact .none
    | some i => exact rel_getElem? hitems i
  | _ => exact .none

theorem follow? (h : Twins r d e) (route : List String) :
    Option.Rel (Twins r) (d.follow? route) (e.follow? route) := by
  induction route generalizing d e with
  | nil => exact .some h
  | cons segment rest ih => exact rel_bind (h.step? hr segment) fun _ _ hchild => ih hchild

theorem resolve? (h : Twins r d e) (path : String) :
    Option.Rel (Twins r) (d.resolve? path) (e.resolve? path) := by
  rw [Document.resolve?, Document.resolve?]
  split
  · exact .some h
  · exact h.follow? hr _

theorem put (h : Twins r (.object ms) (.object ns)) (k : String) (hde : Twins r d e) :
    Twins r (.object (Entries.put ms k d)) (.object (Entries.put ns k e)) := by
  obtain ⟨hms, hns, hagree⟩ := (object_iff hr).mp h
  exact (object_iff hr).mpr
    ⟨Entries.nodup_names_put hms k d, Entries.nodup_names_put hns k e, hagree.put k hde⟩

theorem putAll (h : Twins r (.object ms) (.object ns)) {additions : Members}
    (hadd : ∀ e ∈ additions, e.2.Distinct) :
    Twins r (.object (Entries.putAll ms additions)) (.object (Entries.putAll ns additions)) := by
  induction additions generalizing ms ns with
  | nil => exact h
  | cons e additions ih =>
    rw [List.forall_mem_cons] at hadd
    exact ih (h.put hr e.1 (.refl hr hadd.1)) hadd.2

theorem remove (h : Twins r (.object ms) (.object ns)) (k : String) :
    Twins r (.object (Entries.remove ms k)) (.object (Entries.remove ns k)) := by
  obtain ⟨hms, hns, hagree⟩ := (object_iff hr).mp h
  exact (object_iff hr).mpr
    ⟨Entries.nodup_names_remove hms k, Entries.nodup_names_remove hns k, .remove hms hns hagree k⟩

theorem modify (h : Twins r (.object ms) (.object ns)) {f g : Document → Document}
    (hfg : ∀ d e, Twins r d e → Twins r (f d) (g e)) (k : String) :
    Twins r (.object (Entries.modify f ms k)) (.object (Entries.modify g ns k)) := by
  obtain ⟨hms, hns, hagree⟩ := (object_iff hr).mp h
  rw [object_iff hr, Entries.names_modify, Entries.names_modify]
  exact ⟨hms, hns, hagree.modify hfg k⟩

theorem getD_null {a b : Option Document} (h : Option.Rel (Twins r) a b) :
    Twins r (a.getD .null) (b.getD .null) := by
  cases h with
  | none => exact .refl hr trivial
  | some h => exact h

/-- A walk comes to the same end in twins, and leaves twins. -/
theorem walk {values : Members} (hvalues : ∀ e ∈ values, e.2.Distinct) (h : Twins r d e)
    (route : List String) :
    (Document.walk values d route).1 = (Document.walk values e route).1 ∧
      Twins r (Document.walk values d route).2 (Document.walk values e route).2 := by
  induction route generalizing d e with
  | nil =>
    cases h.matched hr with
    | object hagree => exact ⟨rfl, h.putAll hr hvalues⟩
    | array hitems => exact ⟨rfl, h⟩
    | number _ => exact ⟨rfl, h⟩
    | _ => exact ⟨rfl, .refl hr (h.left.walk hvalues)⟩
  | cons segment rest ih =>
    cases h.matched hr with
    | object hagree =>
      obtain ⟨houtcome, hchild⟩ := ih (getD_null hr (hagree segment))
      exact ⟨houtcome, h.put hr segment hchild⟩
    | @array xs ys hitems =>
      rcases item_or_no_item xs segment with ⟨i, x, hi, hx⟩ | hnone
      · have hitem := rel_getElem? hitems i
        rw [hx] at hitem
        obtain ⟨y, hy, hxy⟩ := exists_of_rel_some hitem
        obtain ⟨houtcome, hchild⟩ := ih hxy
        rw [walk_array_cons_of_item hi hx, walk_array_cons_of_item hi hy]
        exact ⟨houtcome, .array hr (forall₂_set hitems i hchild)⟩
      · obtain ⟨e, he⟩ := walk_array_cons_of_no_item hnone
        rw [he values rest xs rfl, he values rest ys hitems.length_eq.symm]
        exact ⟨rfl, h⟩
    | number _ => exact ⟨rfl, h⟩
    | _ => exact ⟨rfl, .refl hr (h.left.walk hvalues)⟩

theorem mergeAt {values : Members} (hvalues : ∀ e ∈ values, e.2.Distinct) (h : Twins r d e)
    (path : String) :
    (d.mergeAt path values).1 = (e.mergeAt path values).1 ∧
      Twins r (d.mergeAt path values).2 (e.mergeAt path values).2 := by
  obtain ⟨houtcome, hleft⟩ := h.walk hr hvalues (Path.route path)
  exact ⟨congrArg (Except.mapError (MergeError.mk path)) houtcome, hleft⟩

end Operations

end Twins
end Document
end ComponentForm

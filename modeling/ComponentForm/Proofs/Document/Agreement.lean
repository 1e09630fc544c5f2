import ComponentForm.Proofs.Document.Sameness
import Mathlib.Data.List.Perm.Subperm

/-! Relations between documents that do not see the order of members. Such a relation goes by names: two
objects are related when every name has related values in both of them, or none in either. To be alike
is one, to be the same is another. Whatever is found in related documents is related. -/
namespace ComponentForm

section Related
variable {α β : Type u} {γ δ : Type v} {R : α → β → Prop} {a : Option α} {b : Option β}

theorem exists_of_rel_some {v : α} (h : Option.Rel R (some v) b) : ∃ w, b = some w ∧ R v w := by
  cases h with
  | some hvw => exact ⟨_, rfl, hvw⟩

theorem eq_none_of_rel_none (h : Option.Rel R none b) : b = none := by
  cases h
  rfl

theorem isSome_eq_of_rel (h : Option.Rel R a b) : a.isSome = b.isSome := by
  cases h <;> rfl

theorem rel_flip (h : Option.Rel R a b) : Option.Rel (flip R) b a := by
  cases h with
  | none => exact .none
  | some hvw => exact .some hvw

theorem rel_imp {S : α → β → Prop} (h : Option.Rel R a b) (hRS : ∀ v w, R v w → S v w) :
    Option.Rel S a b := by
  cases h with
  | none => exact .none
  | some hvw => exact .some (hRS _ _ hvw)

theorem rel_map {S : γ → δ → Prop} (h : Option.Rel R a b) {f : α → γ} {g : β → δ}
    (hfg : ∀ v w, R v w → S (f v) (g w)) : Option.Rel S (a.map f) (b.map g) := by
  cases h with
  | none => exact .none
  | some hvw => exact .some (hfg _ _ hvw)

theorem rel_bind {S : γ → δ → Prop} (h : Option.Rel R a b) {f : α → Option γ} {g : β → Option δ}
    (hfg : ∀ v w, R v w → Option.Rel S (f v) (g w)) : Option.Rel S (a.bind f) (b.bind g) := by
  cases h with
  | none => exact .none
  | some hvw => exact hfg _ _ hvw

theorem bind_eq_of_rel {f : α → Option γ} {g : β → Option γ} (h : Option.Rel R a b)
    (hfg : ∀ v w, R v w → f v = g w) : a.bind f = b.bind g := by
  cases h with
  | none => rfl
  | some hvw => exact hfg _ _ hvw

end Related

namespace Entries

variable {α : Type u} {R : α → α → Prop} {es fs : Entries α}

theorem value?_put (es : Entries α) (k k' : String) (v : α) :
    value? (put es k v) k' = if k = k' then some v else value? es k' := by
  split
  · next h => rw [← h, value?_put_self]
  · next h => exact value?_put_of_ne es v h

theorem value?_remove (h : (names es).Nodup) (k k' : String) :
    value? (remove es k) k' = if k = k' then none else value? es k' := by
  split
  · next hk => rw [← hk, value?_remove_self h]
  · next hk => exact value?_remove_of_ne es hk

theorem value?_modify (f : α → α) (es : Entries α) (k k' : String) :
    value? (modify f es k) k' = if k = k' then (value? es k').map f else value? es k' := by
  split
  · next hk =>
    subst hk
    induction es with
    | nil => rfl
    | cons e rest ih => by_cases h : e.1 = k <;> simp [modify, value?, h, ih]
  · next hk => exact value?_modify_of_ne f es hk

theorem value?_perm (hnames : (names es).Nodup) (h : es.Perm fs) (k : String) :
    value? es k = value? fs k := by
  have hnames' : (names fs).Nodup := (h.map Prod.fst).nodup_iff.mp hnames
  cases hv : value? es k with
  | some v => exact (value?_of_mem hnames' (h.subset (mem_of_value? hv))).symm
  | none =>
    cases hw : value? fs k with
    | none => rfl
    | some w => rw [value?_of_mem hnames (h.symm.subset (mem_of_value? hw))] at hv; cases hv

theorem perm_cons_remove {k : String} {v : α} (h : value? es k = some v) :
    es.Perm ((k, v) :: remove es k) := by
  induction es with
  | nil => cases h
  | cons e rest ih =>
    obtain ⟨name, w⟩ := e
    rw [value?_cons] at h
    rw [remove]
    by_cases hk : name = k
    · rw [if_pos hk, Option.some.injEq] at h
      rw [if_pos hk, hk, h]
    · rw [if_neg hk] at h
      rw [if_neg hk]
      exact ((ih h).cons _).trans (.swap _ _ _)

/-- Every name has related values in both, or none in either. -/
def Agree (R : α → α → Prop) (es fs : Entries α) : Prop :=
  ∀ k, Option.Rel R (value? es k) (value? fs k)

namespace Agree

theorem has_eq (h : Agree R es fs) (k : String) : has es k = has fs k :=
  isSome_eq_of_rel (h k)

theorem imp {S : α → α → Prop} (h : Agree R es fs) (hRS : ∀ v w, R v w → S v w) : Agree S es fs :=
  fun k => rel_imp (h k) hRS

theorem forall_left (hes : (names es).Nodup) (h : Agree R es fs) {P : α → Prop}
    (hP : ∀ v w, R v w → P v) : ∀ e ∈ es, P e.2 := by
  intro e he
  have hk := h e.1
  rw [value?_of_mem hes he] at hk
  obtain ⟨w, -, hvw⟩ := exists_of_rel_some hk
  exact hP _ w hvw

theorem forall_right (hfs : (names fs).Nodup) (h : Agree R es fs) {P : α → Prop}
    (hP : ∀ v w, R v w → P w) : ∀ e ∈ fs, P e.2 :=
  have hflip : Agree (flip R) fs es := fun k => rel_flip (h k)
  hflip.forall_left hfs fun v w hwv => hP w v hwv

theorem put (h : Agree R es fs) (k : String) {v w : α} (hvw : R v w) :
    Agree R (es.put k v) (fs.put k w) := by
  intro k'
  rw [value?_put, value?_put]
  split
  · exact .some hvw
  · exact h k'

theorem remove (hes : (names es).Nodup) (hfs : (names fs).Nodup) (h : Agree R es fs) (k : String) :
    Agree R (es.remove k) (fs.remove k) := by
  intro k'
  rw [value?_remove hes, value?_remove hfs]
  split
  · exact .none
  · exact h k'

theorem modify (h : Agree R es fs) {f g : α → α} (hfg : ∀ v w, R v w → R (f v) (g w)) (k : String) :
    Agree R (es.modify f k) (fs.modify g k) := by
  intro k'
  rw [value?_modify, value?_modify]
  split
  · exact rel_map (h k') hfg
  · exact h k'

theorem names_perm (hes : (names es).Nodup) (hfs : (names fs).Nodup) (h : Agree R es fs) :
    (names es).Perm (names fs) := by
  rw [List.perm_ext_iff_of_nodup hes hfs]
  intro k
  rw [← has_iff_mem_names, ← has_iff_mem_names, h.has_eq]

/-- Entries that agree may be brought into the same order. -/
theorem exists_paired (hes : (names es).Nodup) (hfs : (names fs).Nodup) (h : Agree R es fs) :
    ∃ ls, es.Perm ls ∧ Paired R ls fs := by
  induction fs generalizing es with
  | nil =>
    have hnil : names es = [] := (h.names_perm hes hfs).eq_nil
    exact ⟨[], by rw [List.map_eq_nil_iff.mp hnil], .nil⟩
  | cons e rest ih =>
    obtain ⟨k, w⟩ := e
    rw [names_cons, List.nodup_cons] at hfs
    have hk := rel_flip (h k)
    rw [value?_cons, if_pos rfl] at hk
    obtain ⟨v, hv, hvw⟩ := exists_of_rel_some hk
    have hrest : Agree R (es.remove k) rest := by
      intro k'
      rw [value?_remove hes]
      split
      · next hkk' =>
        rw [← hkk', value?_eq_none_iff.mpr hfs.1]
        exact .none
      · next hne =>
        have hk' := h k'
        rwa [value?_cons, if_neg hne] at hk'
    obtain ⟨ls, hperm, hpaired⟩ := ih (nodup_names_remove hes k) hfs.2 hrest
    exact ⟨(k, v) :: ls, (perm_cons_remove hv).trans (hperm.cons _), .cons hvw hpaired⟩

theorem of_paired (h : Paired R es fs) : Agree R es fs := by
  induction h with
  | nil => exact fun _ => .none
  | @cons name v w es fs hvw _ ih =>
    intro k
    rw [value?_cons, value?_cons]
    split
    · exact .some hvw
    · exact ih k

theorem of_perm_paired {ls : Entries α} (hes : (names es).Nodup) (hperm : es.Perm ls)
    (hpaired : Paired R ls fs) : Agree R es fs := by
  intro k
  rw [value?_perm hes hperm]
  exact of_paired hpaired k

end Agree
end Entries

namespace Document

variable {r : Document → Document → Prop}

/-- Two documents that match at their roots and have related parts, whatever the order of members. -/
inductive Matched (r : Document → Document → Prop) : Document → Document → Prop
  | null : Matched r .null .null
  | bool (b : Bool) : Matched r (.bool b) (.bool b)
  | number {m n : Number} : r (.number m) (.number n) → Matched r (.number m) (.number n)
  | string (s : String) : Matched r (.string s) (.string s)
  | array {xs ys : List Document} : List.Forall₂ r xs ys → Matched r (.array xs) (.array ys)
  | object {ms ns : Members} : Entries.Agree r ms ns → Matched r (.object ms) (.object ns)

/-- The relation goes by names alone, as long as no object has a name twice. -/
structure Orderless (r : Document → Document → Prop) : Prop where
  refl : ∀ {d : Document}, d.Distinct → r d d
  iff : ∀ {d e : Document}, d.Distinct → e.Distinct → (r d e ↔ Matched r d e)

theorem orderless_alike : Orderless Alike := by
  refine ⟨fun _ => .refl _, fun {d e} hd he => ⟨fun h => ?_, fun h => ?_⟩⟩
  · cases h with
    | null => exact .null
    | bool b => exact .bool b
    | number n => exact .number (.refl _)
    | string s => exact .string s
    | array hitems => exact .array hitems
    | object hperm hpaired => exact .object (.of_perm_paired (distinct_object.mp hd).1 hperm hpaired)
  · cases h with
    | null => exact .null
    | bool b => exact .bool b
    | number h => exact h
    | string s => exact .string s
    | array hitems => exact .array hitems
    | object hagree =>
      obtain ⟨ls, hperm, hpaired⟩ :=
        hagree.exists_paired (distinct_object.mp hd).1 (distinct_object.mp he).1
      exact .object hperm hpaired

theorem sameItems_iff {xs ys : List Document} :
    sameItems xs ys = true ↔ List.Forall₂ (fun x y => x.same y = true) xs ys := by
  induction xs generalizing ys with
  | nil => cases ys <;> simp [sameItems]
  | cons x xs ih => cases ys <;> simp [sameItems, ih]

theorem same_object_iff_agree {ms ns : Members} (hms : (Entries.names ms).Nodup)
    (hns : (Entries.names ns).Nodup) :
    (object ms).same (object ns) = true ↔ Entries.Agree (fun v w => v.same w = true) ms ns := by
  rw [same_object_iff]
  constructor
  · rintro ⟨hlength, hsame⟩ k
    have hsub : Entries.names ms ⊆ Entries.names ns := by
      intro k hk
      obtain ⟨e, he, rfl⟩ := List.mem_map.mp hk
      obtain ⟨w, hw, -⟩ := hsame e.1 e.2 he
      exact (Entries.has_iff_mem_names ns e.1).mp (by rw [Entries.has, hw, Option.isSome_some])
    have hperm : (Entries.names ms).Perm (Entries.names ns) :=
      (List.subperm_of_subset hms hsub).perm_of_length_le (by simp [Entries.names, hlength])
    cases hv : Entries.value? ms k with
    | some v =>
      obtain ⟨w, hw, hvw⟩ := hsame k v (Entries.mem_of_value? hv)
      rw [hw]
      exact .some hvw
    | none =>
      rw [Entries.value?_eq_none_iff, hperm.mem_iff, ← Entries.value?_eq_none_iff] at hv
      rw [hv]
      exact .none
  · intro hagree
    have hlength := (hagree.names_perm hms hns).length_eq
    refine ⟨by simpa [Entries.names] using hlength, fun k v hmem => ?_⟩
    have hk := hagree k
    rw [Entries.value?_of_mem hms hmem] at hk
    exact exists_of_rel_some hk

theorem orderless_same : Orderless fun d e => d.same e = true := by
  refine ⟨fun hd => hd.same_self, fun {d e} hd he => ⟨fun h => ?_, fun h => ?_⟩⟩
  · cases d <;> cases e <;> simp only [same, decide_eq_true_eq, Bool.false_eq_true] at h
    case null.null => exact .null
    case bool.bool => exact h ▸ .bool _
    case number.number m n => exact .number (by rwa [same])
    case string.string => exact h ▸ .string _
    case array.array => exact .array (sameItems_iff.mp h)
    case object.object ms ns =>
      exact .object ((same_object_iff_agree (distinct_object.mp hd).1 (distinct_object.mp he).1).mp
        (by rwa [same]))
  · cases h with
    | null => rfl
    | bool b => simp [same]
    | number h => exact h
    | string s => simp [same]
    | array hitems =>
      rw [same]
      exact sameItems_iff.mpr hitems
    | object hagree =>
      exact (same_object_iff_agree (distinct_object.mp hd).1 (distinct_object.mp he).1).mpr hagree

end Document
end ComponentForm

import ComponentForm.Form.Outcome
import ComponentForm.Proofs.Since

/-! The body of a firing. The parameters of the trigger are gone through in their order; one whose path
leads to a value binds its key to it, and any other binds nothing. A key stands where it was bound first
and has the value to which it was bound last. -/
namespace ComponentForm

theorem eraseDups_concat (ks : List String) (k : String) :
    (ks ++ [k]).eraseDups = if k ∈ ks then ks.eraseDups else ks.eraseDups ++ [k] := by
  rw [List.eraseDups_append]
  by_cases hk : k ∈ ks <;> simp [List.removeAll, List.eraseDups_cons, hk]

namespace Firing

variable {values : Document} {k : String} {v : Document}

def bound? (values : Document) (p : Trigger.Parameter) : Option Document :=
  values.resolve? p.path

def bodyOf (values : Document) (ps : List Trigger.Parameter) : Members :=
  Entries.putAll [] (ps.filterMap fun p => (bound? values p).map fun v => (p.key, v))

theorem body_eq (f : Firing) : f.body = bodyOf f.values f.trigger.parameters := rfl

theorem bodyOf_concat_of_none {ps : List Trigger.Parameter} {p : Trigger.Parameter}
    (h : bound? values p = none) : bodyOf values (ps ++ [p]) = bodyOf values ps := by
  simp [bodyOf, h]

theorem bodyOf_concat_of_some {ps : List Trigger.Parameter} {p : Trigger.Parameter}
    (h : bound? values p = some v) :
    bodyOf values (ps ++ [p]) = (bodyOf values ps).put p.key v := by
  simp [bodyOf, h, Entries.putAll]

/-- The last parameter of the key that binds it binds it to the value. -/
def Binds (values : Document) (k : String) (v : Document) : List Trigger.Parameter → Prop :=
  Since (fun _ p => p.key = k ∧ bound? values p = some v) fun p => p.key = k → bound? values p = none

theorem value?_bodyOf_eq_some_iff (ps : List Trigger.Parameter) :
    (bodyOf values ps).value? k = some v ↔ Binds values k v ps := by
  induction ps using List.reverseRecOn with
  | nil => simp [bodyOf, Binds, not_since_nil]
  | append_singleton ps p ih =>
    rw [Binds, since_concat, ← Binds, ← ih]
    cases hp : bound? values p with
    | none => simp [bodyOf_concat_of_none hp]
    | some w =>
      rw [bodyOf_concat_of_some hp]
      by_cases hk : p.key = k
      · subst hk
        simp [Entries.value?_put_self]
      · simp [Entries.value?_put_of_ne _ _ hk, hk]

def boundKeys (values : Document) (ps : List Trigger.Parameter) : List String :=
  (ps.filter fun p => (bound? values p).isSome).map (·.key)

theorem mem_boundKeys {ps : List Trigger.Parameter} :
    k ∈ boundKeys values ps ↔ ∃ p ∈ ps, p.key = k ∧ (bound? values p).isSome = true := by
  simp only [boundKeys, List.mem_map, List.mem_filter]
  constructor
  · rintro ⟨p, ⟨hp, hbound⟩, hk⟩
    exact ⟨p, hp, hk, hbound⟩
  · rintro ⟨p, hp, hk, hbound⟩
    exact ⟨p, ⟨hp, hbound⟩, hk⟩

theorem names_bodyOf (ps : List Trigger.Parameter) :
    (bodyOf values ps).names = (boundKeys values ps).eraseDups := by
  induction ps using List.reverseRecOn with
  | nil => rfl
  | append_singleton ps p ih =>
    cases hp : bound? values p with
    | none => simp [bodyOf_concat_of_none hp, ih, boundKeys, hp]
    | some w =>
      have hkeys : boundKeys values (ps ++ [p]) = boundKeys values ps ++ [p.key] := by
        simp [boundKeys, hp]
      have hhas : (bodyOf values ps).has p.key = true ↔ p.key ∈ boundKeys values ps := by
        rw [Entries.has_iff_mem_names, ih, List.mem_eraseDups]
      rw [bodyOf_concat_of_some hp, hkeys, Entries.names_put, eraseDups_concat]
      simp only [hhas, ih]

/-- The keys of the body are those that some parameter binds to a value of the firing, in the order in
which they are bound first. Each has the value to which the last parameter that binds it does. -/
theorem body_binds_keys_of_parameters (f : Firing) :
    (∀ k, f.body.has k = true ↔
      ∃ p ∈ f.trigger.parameters, p.key = k ∧ (f.values.resolve? p.path).isSome = true) ∧
    (∀ k v, f.body.value? k = some v ↔ ∃ before p after, f.trigger.parameters = before ++ p :: after ∧
      (p.key = k ∧ f.values.resolve? p.path = some v) ∧
      ∀ q ∈ after, q.key = k → f.values.resolve? q.path = none) ∧
    f.body.names = ((f.trigger.parameters.filter fun p =>
      (f.values.resolve? p.path).isSome).map (·.key)).eraseDups := by
  have hnames : f.body.names = (boundKeys f.values f.trigger.parameters).eraseDups := by
    rw [body_eq, names_bodyOf]
  refine ⟨fun k => ?_, fun k v => ?_, hnames⟩
  · rw [Entries.has_iff_mem_names, hnames, List.mem_eraseDups]
    exact mem_boundKeys
  · rw [body_eq]
    exact value?_bodyOf_eq_some_iff f.trigger.parameters

/-- The second value of a key takes the place of the first, and a path that leads nowhere takes nothing
away. -/
example : Firing.body ⟨"f", ⟨"", "", .update, [⟨"a", "x"⟩, ⟨"b", "y"⟩, ⟨"a", "y"⟩, ⟨"b", "z"⟩]⟩,
    .object [("x", .null), ("y", .bool true)]⟩ = [("a", .bool true), ("b", .bool true)] := by
  rfl

end Firing
end ComponentForm

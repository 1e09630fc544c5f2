import ComponentForm.Form.Basic
import Mathlib.Data.List.Forall2

/-! What does not depend on an order. Operations commute when neither sees whether the other came
first. Two documents are alike when the one becomes the other by bringing the members of its objects,
at any depth, into another order; numbers have to be equal to the letter. -/
namespace ComponentForm

/-- Two operations at a state have the same outcomes in either order, and leave states that are
alike. -/
structure Commute {σ : Type u} {α : Type v} {β : Type w} (alike : σ → σ → Prop)
    (f : σ → α × σ) (g : σ → β × σ) (s : σ) : Prop where
  first : (f (g s).2).1 = (f s).1
  second : (g (f s).2).1 = (g s).1
  left : alike (g (f s).2).2 (f (g s).2).2

namespace Commute

theorem symm {σ : Type u} {α : Type v} {β : Type w} {f : σ → α × σ} {g : σ → β × σ} {s : σ}
    (h : Commute Eq f g s) : Commute Eq g f s :=
  ⟨h.second, h.first, h.left.symm⟩

theorem alike_of_eq {σ : Type u} {α : Type v} {β : Type w} {alike : σ → σ → Prop} {f : σ → α × σ}
    {g : σ → β × σ} {s : σ} (hrefl : ∀ s, alike s s) (h : Commute Eq f g s) : Commute alike f g s :=
  ⟨h.first, h.second, h.left ▸ hrefl _⟩

/-- What operations do to a part of a state, they do to the state: here `whole` puts a part in its
place, and `φ` and `ψ` make outcomes for the state from those for the part. -/
theorem lift {σ τ : Type u} {α α' : Type v} {β β' : Type w} {alike : σ → σ → Prop}
    {alike' : τ → τ → Prop} {f : σ → α × σ} {g : σ → β × σ} {F : τ → α' × τ} {G : τ → β' × τ}
    {s : σ} {t : τ} (h : Commute alike f g s) (whole : σ → τ) (φ : α → α') (ψ : β → β')
    (hF : F t = (φ (f s).1, whole (f s).2)) (hG : G t = (ψ (g s).1, whole (g s).2))
    (hF' : ∀ s, F (whole s) = (φ (f s).1, whole (f s).2))
    (hG' : ∀ s, G (whole s) = (ψ (g s).1, whole (g s).2))
    (halike : ∀ {s s'}, alike s s' → alike' (whole s) (whole s')) : Commute alike' F G t := by
  refine ⟨?_, ?_, ?_⟩
  · rw [hG, hF', hF, h.first]
  · rw [hF, hG', hG, h.second]
  · rw [hF, hG', hG, hF']
    exact halike h.left

end Commute

/-- The same names in the same order, with related values. -/
inductive Entries.Paired {α : Type u} (R : α → α → Prop) : Entries α → Entries α → Prop
  | nil : Paired R [] []
  | cons {k : String} {v w : α} {es fs : Entries α} :
    R v w → Paired R es fs → Paired R ((k, v) :: es) ((k, w) :: fs)

namespace Entries.Paired

variable {α : Type u} {R : α → α → Prop}

theorem refl (hR : ∀ v, R v v) : ∀ es : Entries α, Paired R es es
  | [] => .nil
  | (_, v) :: es => .cons (hR v) (refl hR es)

theorem put (hR : ∀ v, R v v) (es : Entries α) (k : String) {v w : α} (h : R v w) :
    Paired R (es.put k v) (es.put k w) := by
  induction es with
  | nil => exact .cons h .nil
  | cons e rest ih =>
    obtain ⟨name, u⟩ := e
    simp only [Entries.put]
    by_cases hk : name = k
    · rw [if_pos hk, if_pos hk]
      exact .cons h (refl hR rest)
    · rw [if_neg hk, if_neg hk]
      exact .cons (hR u) ih

theorem length_eq {es fs : Entries α} (h : Paired R es fs) : es.length = fs.length := by
  induction h with
  | nil => rfl
  | cons _ _ ih => rw [List.length_cons, List.length_cons, ih]

theorem value? {es fs : Entries α} (h : Paired R es fs) {k : String} {v : α}
    (hv : es.value? k = some v) : ∃ w, fs.value? k = some w ∧ R v w := by
  induction h with
  | nil => cases hv
  | @cons name u w es fs hR _ ih =>
    rw [value?_cons] at hv ⊢
    by_cases hk : name = k
    · rw [if_pos hk, Option.some.injEq] at hv
      exact ⟨w, if_pos hk, hv ▸ hR⟩
    · rw [if_neg hk] at hv ⊢
      exact ih hv

end Entries.Paired

namespace Document

inductive Alike : Document → Document → Prop
  | null : Alike .null .null
  | bool (b : Bool) : Alike (.bool b) (.bool b)
  | number (n : Number) : Alike (.number n) (.number n)
  | string (s : String) : Alike (.string s) (.string s)
  | array {xs ys : List Document} : List.Forall₂ Alike xs ys → Alike (.array xs) (.array ys)
  | object {ms ls ns : Members} :
    ms.Perm ls → Entries.Paired Alike ls ns → Alike (.object ms) (.object ns)

mutual
@[refl] theorem Alike.refl : ∀ d : Document, Alike d d
  | .null => .null
  | .bool b => .bool b
  | .number n => .number n
  | .string s => .string s
  | .array xs => .array (Alike.refl_items xs)
  | .object ms => .object (.refl ms) (Alike.refl_members ms)

theorem Alike.refl_items : ∀ xs : List Document, List.Forall₂ Alike xs xs
  | [] => .nil
  | x :: xs => .cons (Alike.refl x) (Alike.refl_items xs)

theorem Alike.refl_members : ∀ ms : List (String × Document), Entries.Paired Alike ms ms
  | [] => .nil
  | (_, v) :: ms => .cons (Alike.refl v) (Alike.refl_members ms)
end

theorem Alike.of_perm {ms ns : Members} (h : ms.Perm ns) : Alike (.object ms) (.object ns) :=
  .object h (Alike.refl_members ns)

theorem Alike.put (ms : Members) (k : String) {v w : Document} (h : Alike v w) :
    Alike (.object (ms.put k v)) (.object (ms.put k w)) :=
  .object (.refl _) (.put Alike.refl ms k h)

theorem Alike.set (xs : List Document) (i : Nat) {v w : Document} (h : Alike v w) :
    Alike (.array (xs.set i v)) (.array (xs.set i w)) := by
  refine .array ?_
  induction xs generalizing i with
  | nil => exact .nil
  | cons x xs ih =>
    cases i with
    | zero => exact .cons h (refl_items xs)
    | succ i => exact .cons (.refl x) (ih i)

mutual
def Distinct : Document → Prop
  | .array xs => DistinctItems xs
  | .object ms => (Entries.names ms).Nodup ∧ DistinctMembers ms
  | _ => True

def DistinctItems : List Document → Prop
  | [] => True
  | x :: xs => Distinct x ∧ DistinctItems xs

def DistinctMembers : List (String × Document) → Prop
  | [] => True
  | (_, v) :: ms => Distinct v ∧ DistinctMembers ms
end

mutual
/-- What is alike is the same, as long as names say which members are meant. -/
theorem Alike.same : ∀ {d e : Document}, Alike d e → Distinct d → d.same e = true
  | .null, _, .null, _ => rfl
  | .bool b, _, .bool _, _ => by simp [Document.same]
  | .number n, _, .number _, _ => by cases n <;> simp [Document.same, Number.same, Binary64.same]
  | .string s, _, .string _, _ => by simp [Document.same]
  | .array xs, .array ys, .array hitems, hdistinct => by
    rw [Distinct] at hdistinct
    rw [Document.same]
    exact Alike.sameItems hitems hdistinct
  | .object ms, .object ns, .object hperm hpaired, hdistinct => by
    rw [Distinct] at hdistinct
    have hlength : ms.length = ns.length := hperm.length_eq.trans hpaired.length_eq
    have hnames : (Entries.names _).Nodup := (hperm.map Prod.fst).nodup_iff.mp hdistinct.1
    rw [Document.same, Bool.and_eq_true]
    refine ⟨decide_eq_true hlength, Alike.sameMembers (fun k v hmem => ?_) hdistinct.2⟩
    exact hpaired.value? (Entries.value?_of_mem hnames (hperm.subset hmem))

theorem Alike.sameItems : ∀ {xs ys : List Document}, List.Forall₂ Alike xs ys → DistinctItems xs →
    Document.sameItems xs ys = true
  | [], _, .nil, _ => rfl
  | _ :: _, _ :: _, .cons hx hxs, hdistinct => by
    rw [DistinctItems] at hdistinct
    rw [Document.sameItems, hx.same hdistinct.1, Alike.sameItems hxs hdistinct.2]
    rfl

theorem Alike.sameMembers : ∀ {ms ns : List (String × Document)},
    (∀ k v, (k, v) ∈ ms → ∃ w, Entries.value? ns k = some w ∧ Alike v w) → DistinctMembers ms →
    Document.sameMembers ms ns = true
  | [], _, _, _ => rfl
  | (k, v) :: ms, ns, halike, hdistinct => by
    rw [DistinctMembers] at hdistinct
    obtain ⟨w, hw, hvw⟩ := halike k v List.mem_cons_self
    have hrest := Alike.sameMembers (fun k v hmem => halike k v (List.mem_cons_of_mem _ hmem)) hdistinct.2
    simp only [Document.sameMembers, hw, hvw.same hdistinct.1, hrest, Bool.and_self]
end

end Document

namespace Form

/-- Forms that differ at most in the order of members. -/
structure Alike (f g : Form) : Prop where
  schema : f.schema.Alike g.schema
  layout : f.layout.Alike g.layout
  values : f.values.Alike g.values
  messages : Option.Rel Document.Alike f.messages g.messages
  extra : (Document.object f.extra).Alike (.object g.extra)

theorem alike_messages_refl : ∀ messages : Option Document, Option.Rel Document.Alike messages messages
  | none => .none
  | some d => .some (.refl d)

@[refl] theorem Alike.refl (f : Form) : Alike f f :=
  ⟨.refl _, .refl _, .refl _, alike_messages_refl _, .refl _⟩

/-- No object of the form has a name twice. -/
structure Distinct (f : Form) : Prop where
  schema : f.schema.Distinct
  layout : f.layout.Distinct
  values : f.values.Distinct
  messages : ∀ d ∈ f.messages, d.Distinct
  extra : (Document.object f.extra).Distinct

theorem Alike.same {f g : Form} (h : f.Alike g) (hf : f.Distinct) : f.same g = true := by
  have hmessages := h.messages
  have hdistinct := hf.messages
  simp only [Form.same, h.schema.same hf.schema, h.layout.same hf.layout, h.values.same hf.values,
    h.extra.same hf.extra, Bool.true_and, Bool.and_true]
  cases hm : f.messages with
  | none =>
    rw [hm] at hmessages
    cases hg : g.messages with
    | none => rfl
    | some e => rw [hg] at hmessages; cases hmessages
  | some d =>
    rw [hm] at hmessages hdistinct
    cases hg : g.messages with
    | none => rw [hg] at hmessages; cases hmessages
    | some e =>
      rw [hg] at hmessages
      cases hmessages with
      | some hde => exact hde.same (hdistinct d rfl)

end Form
end ComponentForm

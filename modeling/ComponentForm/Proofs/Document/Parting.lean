import ComponentForm.Proofs.Document.Order
import ComponentForm.Proofs.Document.Walk

/-! Walks on routes that part. Two merges into one document do not get in each other's way when their
routes share a beginning and then take different members or items: neither walk sees what the other
leaves behind, and only new members may end up in another order. -/
namespace ComponentForm

/-- The pieces of a path that count. -/
def Path.route (path : String) : List String :=
  (Path.segments path).filter (· ≠ "")

/-- The two routes go the same way up to segments that differ and do not count the same item. -/
def Path.Part (p q : List String) : Prop :=
  ∃ common s t p' q', p = common ++ s :: p' ∧ q = common ++ t :: q' ∧ s ≠ t ∧
    ¬ ∃ i, Text.readCount? Text.wordLimit s = some i ∧ Text.readCount? Text.wordLimit t = some i

namespace Document

theorem walk_array_cons_of_item {values : Members} {xs : List Document} {segment : String} {i : Nat}
    {item : Document} (hi : Text.readCount? Text.wordLimit segment = some i) (hitem : xs[i]? = some item)
    (rest : List String) :
    walk values (.array xs) (segment :: rest) =
      ((walk values item rest).1, .array (xs.set i (walk values item rest).2)) := by
  simp [walk, opened, hi, hitem]

theorem walk_array_cons_of_no_item {xs : List Document} {segment : String}
    (h : ∀ i, Text.readCount? Text.wordLimit segment = some i → xs.length ≤ i) :
    ∃ e, ∀ values rest (ys : List Document), ys.length = xs.length →
      walk values (.array ys) (segment :: rest) = (.error e, .array ys) := by
  cases hi : Text.readCount? Text.wordLimit segment with
  | none => exact ⟨.notAnIndex segment, fun values rest ys _ => by simp [walk, opened, hi]⟩
  | some i =>
    refine ⟨.outOfRange i xs.length, fun values rest ys hlength => ?_⟩
    have hnone : ys[i]? = none := List.getElem?_eq_none (hlength ▸ h i hi)
    simp [walk, opened, hi, hnone, hlength]

theorem item_or_no_item (xs : List Document) (segment : String) :
    (∃ i item, Text.readCount? Text.wordLimit segment = some i ∧ xs[i]? = some item) ∨
    ∀ i, Text.readCount? Text.wordLimit segment = some i → xs.length ≤ i := by
  by_cases h : ∃ i, Text.readCount? Text.wordLimit segment = some i ∧ i < xs.length
  · obtain ⟨i, hi, hlt⟩ := h
    exact Or.inl ⟨i, xs[i], hi, List.getElem?_eq_getElem hlt⟩
  · exact Or.inr fun i hi => Nat.not_lt.mp fun hlt => h ⟨i, hi, hlt⟩

section Routes
variable {a b : Members} {s t : String} {p q : List String}

theorem commute_walk_object (hne : s ≠ t) (ms : Members) :
    Commute Alike (walk a · (s :: p)) (walk b · (t :: q)) (.object ms) := by
  refine ⟨?_, ?_, ?_⟩
  · simp only [walk_object_cons, Entries.value?_put_of_ne _ _ (Ne.symm hne)]
  · simp only [walk_object_cons, Entries.value?_put_of_ne _ _ hne]
  · simp only [walk_object_cons, Entries.value?_put_of_ne _ _ (Ne.symm hne),
      Entries.value?_put_of_ne _ _ hne]
    exact .of_perm (Entries.put_put_perm ms _ _ hne)

theorem walk_array_length (values : Members) (xs : List Document) (segment : String)
    (rest : List String) :
    ∃ ys, (walk values (.array xs) (segment :: rest)).2 = .array ys ∧ ys.length = xs.length := by
  rcases walk_array_cons values xs segment rest with ⟨e, h⟩ | ⟨i, item, -, h⟩
  · exact ⟨xs, by rw [h], rfl⟩
  · exact ⟨_, by rw [h], List.length_set⟩

theorem commute_walk_array
    (hne : ¬ ∃ i, Text.readCount? Text.wordLimit s = some i ∧
      Text.readCount? Text.wordLimit t = some i) (xs : List Document) :
    Commute Alike (walk a · (s :: p)) (walk b · (t :: q)) (.array xs) := by
  rcases item_or_no_item xs s with ⟨i, x, hi, hx⟩ | hs
  · rcases item_or_no_item xs t with ⟨j, y, hj, hy⟩ | ht
    · have hij : i ≠ j := fun h => hne ⟨i, hi, h ▸ hj⟩
      have hx' : ∀ c, (xs.set j c)[i]? = some x :=
        fun c => (List.getElem?_set_ne (Ne.symm hij)).trans hx
      have hy' : ∀ c, (xs.set i c)[j]? = some y := fun c => (List.getElem?_set_ne hij).trans hy
      refine ⟨?_, ?_, ?_⟩
      · simp only [walk_array_cons_of_item hj hy, walk_array_cons_of_item hi (hx' _),
          walk_array_cons_of_item hi hx]
      · simp only [walk_array_cons_of_item hi hx, walk_array_cons_of_item hj (hy' _),
          walk_array_cons_of_item hj hy]
      · simp only [walk_array_cons_of_item hi hx, walk_array_cons_of_item hj hy,
          walk_array_cons_of_item hi (hx' _), walk_array_cons_of_item hj (hy' _),
          List.set_comm _ _ hij]
        exact .refl _
    · obtain ⟨e, he⟩ := walk_array_cons_of_no_item ht
      obtain ⟨ys, hys, hlength⟩ := walk_array_length a xs s p
      exact ⟨by simp only [he b q xs rfl], by simp only [hys, he b q ys hlength, he b q xs rfl],
        by simp only [hys, he b q ys hlength, he b q xs rfl]; exact .refl _⟩
  · obtain ⟨e, he⟩ := walk_array_cons_of_no_item hs
    obtain ⟨ys, hys, hlength⟩ := walk_array_length b xs t q
    exact ⟨by simp only [hys, he a p ys hlength, he a p xs rfl], by simp only [he a p xs rfl],
      by simp only [hys, he a p ys hlength, he a p xs rfl]; exact .refl _⟩

theorem commute_walk_fork (hne : s ≠ t)
    (hindex : ¬ ∃ i, Text.readCount? Text.wordLimit s = some i ∧
      Text.readCount? Text.wordLimit t = some i) (d : Document) :
    Commute Alike (walk a · (s :: p)) (walk b · (t :: q)) d := by
  cases d with
  | null =>
    obtain ⟨hfirst, hsecond, hleft⟩ := @commute_walk_object a b s t p q hne []
    exact ⟨hfirst, hsecond, hleft⟩
  | object ms => exact commute_walk_object hne ms
  | array xs => exact commute_walk_array hindex xs
  | bool v => exact ⟨rfl, rfl, .refl _⟩
  | number n => exact ⟨rfl, rfl, .refl _⟩
  | string v => exact ⟨rfl, rfl, .refl _⟩

theorem commute_walk_cons {segment : String}
    (h : ∀ d, Commute Alike (walk a · p) (walk b · q) d) (d : Document) :
    Commute Alike (walk a · (segment :: p)) (walk b · (segment :: q)) d := by
  have hobject : ∀ ms : Members,
      Commute Alike (walk a · (segment :: p)) (walk b · (segment :: q)) (.object ms) := by
    intro ms
    have hput : ∀ (values : Members) (rest : List String) (child : Document),
        walk values (.object (ms.put segment child)) (segment :: rest) =
          ((walk values child rest).1, .object (ms.put segment (walk values child rest).2)) := by
      intro values rest child
      rw [walk_object_cons, Entries.value?_put_self, Option.getD_some, Entries.put_put_self]
    exact (h _).lift (fun child => .object (ms.put segment child)) id id (walk_object_cons _ _ _ _)
      (walk_object_cons _ _ _ _) (hput a p) (hput b q) (.put ms segment)
  cases d with
  | null =>
    obtain ⟨hfirst, hsecond, hleft⟩ := hobject []
    exact ⟨hfirst, hsecond, hleft⟩
  | object ms => exact hobject ms
  | array xs =>
    rcases item_or_no_item xs segment with ⟨i, x, hi, hx⟩ | hnone
    · have hset : ∀ (values : Members) (rest : List String) (child : Document),
          walk values (.array (xs.set i child)) (segment :: rest) =
            ((walk values child rest).1, .array (xs.set i (walk values child rest).2)) := by
        intro values rest child
        have hlt : i < xs.length := (List.getElem?_eq_some_iff.mp hx).1
        rw [walk_array_cons_of_item hi (List.getElem?_set_self hlt), List.set_set]
      exact (h x).lift (fun child => .array (xs.set i child)) id id
        (walk_array_cons_of_item hi hx p) (walk_array_cons_of_item hi hx q) (hset a p) (hset b q)
        (.set xs i)
    · obtain ⟨e, he⟩ := walk_array_cons_of_no_item hnone
      exact ⟨by simp only [he _ _ xs rfl], by simp only [he _ _ xs rfl],
        by simp only [he _ _ xs rfl]; exact .refl _⟩
  | bool v => exact ⟨rfl, rfl, .refl _⟩
  | number n => exact ⟨rfl, rfl, .refl _⟩
  | string v => exact ⟨rfl, rfl, .refl _⟩

theorem commute_walk (hpart : Path.Part p q) (d : Document) :
    Commute Alike (walk a · p) (walk b · q) d := by
  obtain ⟨common, s, t, p, q, rfl, rfl, hne, hindex⟩ := hpart
  induction common generalizing d with
  | nil => exact commute_walk_fork hne hindex d
  | cons segment common ih => exact commute_walk_cons ih d

end Routes

theorem commute_mergeAt {a b : Members} {path path' : String}
    (hpart : Path.Part (Path.route path) (Path.route path')) (d : Document) :
    Commute Alike (mergeAt · path a) (mergeAt · path' b) d :=
  (commute_walk hpart d).lift id (Except.mapError (⟨path, ·⟩)) (Except.mapError (⟨path', ·⟩)) rfl rfl
    (fun _ => rfl) (fun _ => rfl) id

end Document
end ComponentForm

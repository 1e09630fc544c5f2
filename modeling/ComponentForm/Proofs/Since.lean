import Mathlib.Data.List.Induction

/-! The word for the past. What a call may rely on is often that something happened before it and
that nothing has undone it since; logs grow at their end, and so do the proofs about them. -/
namespace ComponentForm

/-- Some entry, judged together with those before it, satisfies `p`, and all later ones satisfy
`q`. -/
def Since {α : Type u} (p : List α → α → Prop) (q : α → Prop) (log : List α) : Prop :=
  ∃ before e later, log = before ++ e :: later ∧ p before e ∧ ∀ x ∈ later, q x

section Since
variable {α : Type u} {p : List α → α → Prop} {q : α → Prop}

theorem not_since_nil : ¬ Since p q [] := by
  rintro ⟨before, e, later, h, -⟩
  simp at h

theorem since_concat {log : List α} {x : α} :
    Since p q (log ++ [x]) ↔ p log x ∨ Since p q log ∧ q x := by
  constructor
  · rintro ⟨before, e, later, h, hp, hq⟩
    rcases later.eq_nil_or_concat with rfl | ⟨front, y, rfl⟩
    · obtain ⟨rfl, h₁⟩ := List.append_inj' h rfl
      obtain rfl : x = e := by simpa using h₁
      exact Or.inl hp
    · rw [List.concat_eq_append, ← List.cons_append, ← List.append_assoc] at h
      obtain ⟨rfl, h₁⟩ := List.append_inj' h rfl
      obtain rfl : x = y := by simpa using h₁
      simp only [List.concat_eq_append, List.mem_append, List.mem_singleton] at hq
      exact Or.inr ⟨⟨before, e, front, rfl, hp, fun z hz => hq z (Or.inl hz)⟩, hq x (Or.inr rfl)⟩
  · rintro (hp | ⟨⟨before, e, later, rfl, hp, hq⟩, hx⟩)
    · exact ⟨log, x, [], rfl, hp, by simp⟩
    · refine ⟨before, e, later ++ [x], by simp, hp, fun z hz => ?_⟩
      rcases List.mem_append.mp hz with hz | hz
      · exact hq z hz
      · exact List.mem_singleton.mp hz ▸ hx

theorem since_filter {p q : α → Prop} {r : α → Bool} (hp : ∀ e, p e → r e = true)
    (hq : ∀ e, r e = false → q e) (log : List α) :
    Since (fun _ e => p e) q (log.filter r) ↔ Since (fun _ e => p e) q log := by
  induction log using List.reverseRecOn with
  | nil => rfl
  | append_singleton log x ih =>
    rw [List.filter_append, since_concat]
    cases hx : r x with
    | true =>
      rw [List.filter_cons_of_pos hx, List.filter_nil, since_concat, ih]
    | false =>
      have hno : ¬ p x := fun h => by simp [hp x h] at hx
      rw [List.filter_cons_of_neg (by simp [hx]), List.filter_nil, List.append_nil, ih]
      simp [hno, hq x hx]

end Since

end ComponentForm

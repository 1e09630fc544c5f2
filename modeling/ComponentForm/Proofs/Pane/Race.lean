import ComponentForm.Pane.Viewer
import Mathlib.Data.List.Nodup
import Mathlib.Logic.Relation

/-! Loads that race. Components are selected one after another, and what the server has for each
arrives at any time after its selection. However the results overtake each other, the pane ends up
with what belongs to the last selection. -/
namespace ComponentForm
namespace Viewer

structure Load where
  id : String
  result : Except LoadError Form

def receive (v : Viewer) (t : Ticket) : Except LoadError Form → Viewer
  | .ok f => (v.complete t f).2
  | .error _ => (v.fail t).2

theorem receive_of_not_awaits {v : Viewer} {t : Ticket} (h : v.awaits t = false)
    (result : Except LoadError Form) : v.receive t result = v := by
  cases result with
  | ok f => simp only [receive, complete_of_not_awaits h]
  | error e => simp only [receive, fail_of_not_awaits h]

theorem receive_cases (v : Viewer) (t : Ticket) (result : Except LoadError Form) :
    v.receive t result = v ∨ (∃ f, v.receive t result = v.apply (.loaded f)) ∨
      v.receive t result = v.clear := by
  cases result with
  | ok f =>
    rcases v.complete_cases t f with h | h
    · exact Or.inl h
    · exact Or.inr (Or.inl ⟨f, h⟩)
  | error e =>
    rcases v.fail_cases t with h | h
    · exact Or.inl h
    · exact Or.inr (Or.inr h)

@[simp] theorem issued_receive (v : Viewer) (t : Ticket) (result : Except LoadError Form) :
    (v.receive t result).issued = v.issued := by
  rcases v.receive_cases t result with h | ⟨f, h⟩ | h <;> rw [h] <;> rfl

@[simp] theorem policy_receive (v : Viewer) (t : Ticket) (result : Except LoadError Form) :
    (v.receive t result).policy = v.policy := by
  rcases v.receive_cases t result with h | ⟨f, h⟩ | h <;> rw [h] <;> rfl

theorem awaits_receive {v : Viewer} {t' : Ticket} (hstale : v.awaits t' = false) (t : Ticket)
    (result : Except LoadError Form) : (v.receive t result).awaits t' = false := by
  rcases v.receive_cases t result with h | ⟨f, h⟩ | h
  · rw [h]
    exact hstale
  · rw [h]
    exact hstale
  · rw [h]
    rfl

theorem awaits_unique {v : Viewer} {t t' : Ticket} (h : v.awaits t = true)
    (h' : v.awaits t' = true) : t = t' := by
  rw [awaits_iff] at h h'
  exact Option.some.inj (h.symm.trans h')

/-- What the pane shows when the result of the last selection is there. -/
def lastScreen (policy : FailurePolicy) : Except LoadError Form → Screen
  | .ok f => .form f
  | .error _ =>
    match policy with
    | .keepLoading => .loading
    | .resetSelection => .empty

theorem screen_receive {v : Viewer} {t : Ticket} (ht : v.awaits t = true)
    (hloading : v.pane.loading = true) (result : Except LoadError Form) :
    Screen.ofPane (v.receive t result).pane = lastScreen v.policy result := by
  cases result with
  | ok f =>
    simp only [receive, complete_of_awaits ht]
    rfl
  | error e =>
    simp only [receive, fail_of_awaits ht, lastScreen]
    cases v.policy with
    | resetSelection => rfl
    | keepLoading => simp [Screen.ofPane, hloading]

/-- The selections still to be made, the results under way, each with the ticket it will arrive on,
and the viewer. -/
structure Race where
  waiting : List Load
  flying : List (Ticket × Except LoadError Form)
  viewer : Viewer

namespace Race

/-- The selections are made in their order; the results arrive in any. -/
inductive Step : Race → Race → Prop
  | select (l : Load) (waiting : List Load) (flying : List (Ticket × Except LoadError Form))
      (v : Viewer) :
      Step ⟨l :: waiting, flying, v⟩
        ⟨waiting, flying ++ [((v.select l.id).1, l.result)], (v.select l.id).2⟩
  | arrive (waiting : List Load) (before after : List (Ticket × Except LoadError Form))
      (t : Ticket) (result : Except LoadError Form) (v : Viewer) :
      Step ⟨waiting, before ++ (t, result) :: after, v⟩
        ⟨waiting, before ++ after, v.receive t result⟩

def start (v : Viewer) (loads : List Load) : Race :=
  ⟨loads, [], v⟩

/-- The result of the last selection is under way and awaited. -/
structure Pending (result : Except LoadError Form) (r : Race) (t : Ticket) : Prop where
  flying : (t, result) ∈ r.flying
  awaited : r.viewer.awaits t = true
  loading : r.viewer.pane.loading = true

/-- The result of the last selection has arrived, and nothing that is under way is awaited. -/
structure Settled (result : Except LoadError Form) (r : Race) : Prop where
  stale : ∀ p ∈ r.flying, r.viewer.awaits p.1 = false
  screen : Screen.ofPane r.viewer.pane = lastScreen r.viewer.policy result

/-- The invariant of a race: no two results under way share a ticket, and the last selection made
is either pending or settled. -/
structure Sound (policy : FailurePolicy) (loads : List Load) (r : Race) : Prop where
  policy_eq : r.viewer.policy = policy
  issued : ∀ p ∈ r.flying, p.1.number ≤ r.viewer.issued
  distinct : (r.flying.map Prod.fst).Nodup
  last : ∃ made, loads = made ++ r.waiting ∧
    ∀ l ∈ made.getLast?, (∃ t, Pending l.result r t) ∨ Settled l.result r

theorem Sound.start (v : Viewer) (loads : List Load) :
    Sound v.policy loads (Race.start v loads) where
  policy_eq := rfl
  issued := by simp [Race.start]
  distinct := List.nodup_nil
  last := ⟨[], rfl, by simp⟩

theorem Sound.select {policy : FailurePolicy} {loads waiting : List Load} {l : Load}
    {flying : List (Ticket × Except LoadError Form)} {v : Viewer}
    (h : Sound policy loads ⟨l :: waiting, flying, v⟩) :
    Sound policy loads
      ⟨waiting, flying ++ [((v.select l.id).1, l.result)], (v.select l.id).2⟩ := by
  have hnew : (v.select l.id).1.number = v.issued + 1 := rfl
  obtain ⟨made, hmade, -⟩ := h.last
  refine ⟨h.policy_eq, fun p hp => ?_, ?_, made ++ [l], by simp [hmade], fun l' hl => ?_⟩
  · rw [issued_select]
    rcases List.mem_append.mp hp with hp | hp
    · exact Nat.le_succ_of_le (h.issued p hp)
    · exact Nat.le_of_eq (by rw [List.mem_singleton.mp hp, hnew])
  · rw [List.map_append, List.map_cons, List.map_nil, List.nodup_append]
    refine ⟨h.distinct, by simp, fun t ht t' ht' heq => ?_⟩
    obtain ⟨p, hp, rfl⟩ := List.mem_map.mp ht
    have hold := h.issued p hp
    rw [heq, List.mem_singleton.mp ht', hnew] at hold
    exact absurd hold (Nat.not_succ_le_self _)
  · obtain rfl : l = l' := by simpa using hl
    exact Or.inl ⟨(v.select l.id).1, by simp, (awaits_select v l.id _).mpr rfl, rfl⟩

section Arrive
variable {waiting : List Load} {before after : List (Ticket × Except LoadError Form)} {t : Ticket}
  {result own : Except LoadError Form} {v : Viewer}

theorem mem_of_mem_rest {p : Ticket × Except LoadError Form} (hp : p ∈ before ++ after) :
    p ∈ before ++ (t, result) :: after := by
  rcases List.mem_append.mp hp with hp | hp
  · exact List.mem_append_left _ hp
  · exact List.mem_append_right _ (List.mem_cons_of_mem _ hp)

theorem Pending.arrive_own (h : Pending own ⟨waiting, before ++ (t, result) :: after, v⟩ t)
    (hdistinct : t ∉ (before ++ after).map Prod.fst) :
    Settled own ⟨waiting, before ++ after, v.receive t result⟩ := by
  have hown : own = result := by
    rcases List.mem_append.mp h.flying with hp | hp
    · exact absurd (List.mem_map_of_mem (List.mem_append_left _ hp)) hdistinct
    · rcases List.mem_cons.mp hp with hp | hp
      · exact (Prod.mk.inj hp).2
      · exact absurd (List.mem_map_of_mem (List.mem_append_right _ hp)) hdistinct
  subst hown
  refine ⟨fun p hp => awaits_receive ?_ t own, ?_⟩
  · rw [← Bool.not_eq_true]
    intro hp'
    have hsame : p.1 = t := awaits_unique hp' h.awaited
    exact hdistinct (hsame ▸ List.mem_map_of_mem hp)
  · rw [policy_receive]
    exact screen_receive h.awaited h.loading own

theorem Pending.arrive_other {t' : Ticket}
    (h : Pending own ⟨waiting, before ++ (t, result) :: after, v⟩ t') (hne : t ≠ t') :
    Pending own ⟨waiting, before ++ after, v.receive t result⟩ t' := by
  have hstale : v.awaits t = false := by
    rw [← Bool.not_eq_true]
    exact fun ht => hne (awaits_unique ht h.awaited)
  rw [receive_of_not_awaits hstale]
  refine ⟨?_, h.awaited, h.loading⟩
  have hflying := h.flying
  simp only [List.mem_append, List.mem_cons, Prod.mk.injEq] at hflying ⊢
  rcases hflying with hp | ⟨ht, -⟩ | hp
  · exact Or.inl hp
  · exact absurd ht.symm hne
  · exact Or.inr hp

theorem Settled.arrive (h : Settled own ⟨waiting, before ++ (t, result) :: after, v⟩) :
    Settled own ⟨waiting, before ++ after, v.receive t result⟩ := by
  rw [receive_of_not_awaits (h.stale (t, result) (by simp))]
  exact ⟨fun p hp => h.stale p (mem_of_mem_rest hp), h.screen⟩

/-- A result either settles the last selection or changes nothing that matters to it. -/
theorem Sound.arrive {policy : FailurePolicy} {loads : List Load}
    (h : Sound policy loads ⟨waiting, before ++ (t, result) :: after, v⟩) :
    Sound policy loads ⟨waiting, before ++ after, v.receive t result⟩ := by
  have hdistinct : t ∉ (before ++ after).map Prod.fst ∧ ((before ++ after).map Prod.fst).Nodup := by
    have hd := h.distinct
    rw [List.map_append, List.map_cons, List.nodup_middle, ← List.map_append] at hd
    exact List.nodup_cons.mp hd
  obtain ⟨made, hmade, hlast⟩ := h.last
  refine ⟨(policy_receive v t result).trans h.policy_eq, fun p hp => ?_, hdistinct.2, made, hmade,
    fun l hl => ?_⟩
  · rw [issued_receive]
    exact h.issued p (mem_of_mem_rest hp)
  · rcases hlast l hl with ⟨t', hpending⟩ | hsettled
    · by_cases heq : t = t'
      · subst heq
        exact Or.inr (hpending.arrive_own hdistinct.1)
      · exact Or.inl ⟨t', hpending.arrive_other heq⟩
    · exact Or.inr hsettled.arrive

end Arrive

theorem Sound.step {policy : FailurePolicy} {loads : List Load} {r r' : Race}
    (h : Sound policy loads r) (hstep : Step r r') : Sound policy loads r' := by
  cases hstep with
  | select l waiting flying v => exact h.select
  | arrive waiting before after t result v => exact h.arrive

theorem Sound.run {policy : FailurePolicy} {loads : List Load} {r r' : Race}
    (h : Sound policy loads r) (hrun : Relation.ReflTransGen Step r r') :
    Sound policy loads r' := by
  induction hrun with
  | refl => exact h
  | tail _ hstep ih => exact ih.step hstep

theorem Sound.screen {policy : FailurePolicy} {earlier : List Load} {last : Load} {v : Viewer}
    (h : Sound policy (earlier ++ [last]) ⟨[], [], v⟩) :
    Screen.ofPane v.pane = lastScreen policy last.result := by
  obtain ⟨made, hmade, hlast⟩ := h.last
  have hmem : last ∈ made.getLast? := by
    rw [List.append_nil] at hmade
    simp [← hmade]
  rcases hlast last hmem with ⟨t, hflying, -, -⟩ | ⟨-, hscreen⟩
  · exact absurd hflying List.not_mem_nil
  · rw [hscreen, h.policy_eq]

theorem exists_finish (r : Race) : ∃ v, Relation.ReflTransGen Step r ⟨[], [], v⟩ := by
  have hland : ∀ flying v, ∃ v', Relation.ReflTransGen Step ⟨[], flying, v⟩ ⟨[], [], v'⟩ := by
    intro flying
    induction flying with
    | nil => exact fun v => ⟨v, .refl⟩
    | cons p flying ih =>
      intro v
      obtain ⟨v', hrun⟩ := ih (v.receive p.1 p.2)
      exact ⟨v', .head (.arrive [] [] flying p.1 p.2 v) hrun⟩
  obtain ⟨waiting, flying, v⟩ := r
  induction waiting generalizing flying v with
  | nil => exact hland flying v
  | cons l waiting ih =>
    obtain ⟨v', hrun⟩ := ih (flying ++ [((v.select l.id).1, l.result)]) (v.select l.id).2
    exact ⟨v', .head (.select l waiting flying v) hrun⟩

/-- When all results have arrived, the pane shows the result of the last selection, and the same
after every other race that ends with this selection. -/
theorem last_selection_wins {v₀ v : Viewer} {earlier : List Load} {last : Load}
    (hrun : Relation.ReflTransGen Step (start v₀ (earlier ++ [last])) ⟨[], [], v⟩) :
    Screen.ofPane v.pane = lastScreen v₀.policy last.result ∧
    ∀ v₀' v' earlier', v₀'.policy = v₀.policy →
      Relation.ReflTransGen Step (start v₀' (earlier' ++ [last])) ⟨[], [], v'⟩ →
      Screen.ofPane v'.pane = Screen.ofPane v.pane := by
  have hscreen := ((Sound.start v₀ (earlier ++ [last])).run hrun).screen
  refine ⟨hscreen, fun v₀' v' earlier' hpolicy hrun' => ?_⟩
  have hscreen' := ((Sound.start v₀' (earlier' ++ [last])).run hrun').screen
  rw [hscreen', hscreen, hpolicy]

/-- The form of the first selection arrives after the failure of the second, and is not shown. -/
theorem overtaken_form_is_not_shown :
    let loads : List Load := [⟨"a", .ok default⟩, ⟨"b", .error (.status "b" 500 none)⟩]
    ∃ v, Relation.ReflTransGen Step (start (.new .keepLoading) loads) ⟨[], [], v⟩ ∧
      Screen.ofPane v.pane = .loading := by
  intro loads
  let first : Ticket × Except LoadError Form := (⟨1⟩, .ok default)
  let second : Ticket × Except LoadError Form := (⟨2⟩, .error (.status "b" 500 none))
  let v := (((Viewer.new .keepLoading).select "a").2.select "b").2
  have hselected : Relation.ReflTransGen Step (start (.new .keepLoading) loads)
      ⟨[], [first, second], v⟩ :=
    .head (.select _ _ _ _) (.single (.select _ _ _ _))
  have harrived : Relation.ReflTransGen Step ⟨[], [first, second], v⟩
      ⟨[], [], (v.receive second.1 second.2).receive first.1 first.2⟩ :=
    .head (.arrive [] [first] [] second.1 second.2 v) (.single (.arrive [] [] [] first.1 first.2 _))
  have hrun := hselected.trans harrived
  refine ⟨_, hrun, ?_⟩
  exact (@last_selection_wins _ _ [⟨"a", .ok default⟩] _ hrun).1

end Race
end Viewer
end ComponentForm

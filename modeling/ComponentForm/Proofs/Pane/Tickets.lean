import ComponentForm.Proofs.Pane.History
import Mathlib.Data.List.Range

/-! Which tickets a viewer takes. A viewer numbers its selections, and takes what comes in on a
ticket exactly as long as the selection that gave it is the last one and has not been dropped. What
it does not take changes nothing, and a ticket it has once refused it refuses for good. -/
namespace ComponentForm
namespace Viewer

def Event.isSelection : Event → Bool
  | .selected _ _ => true
  | _ => false

def Event.ticket? : Event → Option Ticket
  | .selected _ t => some t
  | _ => none

theorem Event.ticket?_of_not_selection {e : Event} (h : e.isSelection = false) :
    e.ticket? = none := by
  cases e with
  | selected id t => simp [isSelection] at h
  | _ => rfl

def tickets (log : List Event) : List Ticket :=
  log.filterMap Event.ticket?

@[simp] theorem tickets_concat (log : List Event) (e : Event) :
    tickets (log ++ [e]) = tickets log ++ e.ticket?.toList := by
  cases h : e.ticket? <;> simp [tickets, h]

/-- The last selection gave out the ticket, and nothing has dropped it since. -/
def Stands (policy : FailurePolicy) (t : Ticket) : List Event → Prop :=
  Since (fun _ e => ∃ id, e = .selected id t)
    (fun e => e.isSelection = false ∧ e.drops policy = false)

theorem stands_selected {policy : FailurePolicy} {log : List Event} {id : String} {t t' : Ticket} :
    Stands policy t (log ++ [.selected id t']) ↔ t = t' := by
  rw [Stands, since_concat]
  constructor
  · rintro (⟨id', h⟩ | ⟨-, h, -⟩)
    · exact (Event.selected.inj h).2.symm
    · simp [Event.isSelection] at h
  · rintro rfl
    exact Or.inl ⟨id, rfl⟩

theorem stands_of_not_selection {policy : FailurePolicy} {log : List Event} {t : Ticket} {e : Event}
    (he : e.isSelection = false) :
    Stands policy t (log ++ [e]) ↔ Stands policy t log ∧ e.drops policy = false := by
  have hno : ¬ ∃ id, e = .selected id t := by
    rintro ⟨id, rfl⟩
    simp [Event.isSelection] at he
  simp [Stands, since_concat, hno, he]

/-- The invariant of all calls: the tickets count the selections, and the awaited one is the one
that stands. -/
structure Ticketed (policy : FailurePolicy) (log : List Event) (v : Viewer) : Prop where
  policy_eq : v.policy = policy
  numbers : (tickets log).map Ticket.number = List.range' 1 v.issued
  awaits_iff_stands : ∀ t, v.awaits t = true ↔ Stands policy t log

namespace Ticketed

variable {policy : FailurePolicy} {log : List Event} {v : Viewer}

theorem new (policy : FailurePolicy) : Ticketed policy [] (.new policy) where
  policy_eq := rfl
  numbers := rfl
  awaits_iff_stands _ := ⟨fun h => (nomatch h), fun h => absurd h not_since_nil⟩

theorem note (h : Ticketed policy log v) {w : Viewer} {e : Event} (hpolicy : w.policy = v.policy)
    (hissued : w.issued = v.issued) (hcurrent : w.current = v.current)
    (hselection : e.isSelection = false) (hdrops : e.drops policy = false) :
    Ticketed policy (log ++ [e]) w where
  policy_eq := hpolicy.trans h.policy_eq
  numbers := by
    simp [Event.ticket?_of_not_selection hselection, h.numbers, hissued]
  awaits_iff_stands t := by
    rw [stands_of_not_selection hselection, ← h.awaits_iff_stands, awaits_iff, awaits_iff, hcurrent]
    simp [hdrops]

theorem select (h : Ticketed policy log v) (id : String) :
    Ticketed policy (log ++ [.selected id (v.select id).1]) (v.select id).2 where
  policy_eq := h.policy_eq
  numbers := by
    simp only [tickets_concat, Event.ticket?, Option.toList_some, List.map_append, h.numbers,
      issued_select, List.range'_1_concat]
    simp [Viewer.select, Nat.add_comm]
  awaits_iff_stands t := by rw [awaits_select, stands_selected]

theorem clear (h : Ticketed policy log v) {e : Event} (hselection : e.isSelection = false)
    (hdrops : e.drops policy = true) : Ticketed policy (log ++ [e]) v.clear where
  policy_eq := h.policy_eq
  numbers := by
    simp [Event.ticket?_of_not_selection hselection, h.numbers, Viewer.clear]
  awaits_iff_stands t := by
    rw [stands_of_not_selection hselection]
    simp [hdrops, awaits, Viewer.clear]

theorem complete (h : Ticketed policy log v) (t : Ticket) (f : Form) :
    Ticketed policy (log ++ [.completed t f (v.complete t f).1]) (v.complete t f).2 := by
  cases ht : v.awaits t with
  | false => rw [complete_of_not_awaits ht]; exact h.note rfl rfl rfl rfl rfl
  | true => rw [complete_of_awaits ht]; exact h.note rfl rfl rfl rfl rfl

theorem fail (h : Ticketed policy log v) (t : Ticket) (e : LoadError) :
    Ticketed policy (log ++ [.failed t e (v.fail t).1]) (v.fail t).2 := by
  cases ht : v.awaits t with
  | false => rw [fail_of_not_awaits ht]; exact h.note rfl rfl rfl rfl rfl
  | true =>
    rw [fail_of_awaits ht, h.policy_eq]
    cases policy with
    | resetSelection => exact h.clear rfl rfl
    | keepLoading => exact h.note rfl rfl rfl rfl rfl

theorem applyAll (h : Ticketed policy log v) (cs : List Change) {e : Event}
    (hselection : e.isSelection = false) (hdrops : e.drops policy = false) :
    Ticketed policy (log ++ [e]) (v.applyAll cs) := by
  rw [applyAll_eq]
  exact h.note rfl rfl rfl hselection hdrops

end Ticketed

theorem History.ticketed_step {policy : FailurePolicy} (h : History) (c : Call)
    (hh : Ticketed policy h.log h.viewer) : Ticketed policy (h.step c).log (h.step c).viewer := by
  cases c with
  | select id => exact hh.select id
  | complete t f => exact hh.complete t f
  | fail t e => exact hh.fail t e
  | clear => exact hh.clear rfl rfl
  | apply c => exact hh.note rfl rfl rfl rfl rfl
  | submit values => exact hh.note rfl rfl rfl rfl rfl
  | reopen => exact hh.note rfl rfl rfl rfl rfl
  | drain => exact hh.applyAll h.queue.waiting rfl rfl

theorem History.ticketed_run (policy : FailurePolicy) (calls : List Call) :
    Ticketed policy ((start policy).run calls).log ((start policy).run calls).viewer :=
  run_invariant (fun h c (_ : True) => h.ticketed_step c) (fun _ _ => trivial) (.new policy)

/-- A ticket given out before and not awaited is not awaited after any further call. -/
theorem not_awaits_step {h : History} {t : Ticket} (c : Call) (hold : t.number ≤ h.viewer.issued)
    (hstale : h.viewer.awaits t = false) :
    t.number ≤ (h.step c).viewer.issued ∧ (h.step c).viewer.awaits t = false := by
  have hsame : ∀ {w : Viewer}, w.issued = h.viewer.issued → w.current = h.viewer.current →
      t.number ≤ w.issued ∧ w.awaits t = false := by
    intro w hissued hcurrent
    refine ⟨hissued ▸ hold, ?_⟩
    rw [← hstale]
    unfold awaits
    rw [hcurrent]
  have hclear : t.number ≤ h.viewer.clear.issued ∧ h.viewer.clear.awaits t = false := ⟨hold, rfl⟩
  cases c with
  | select id =>
    refine ⟨Nat.le_succ_of_le hold, ?_⟩
    rw [← Bool.not_eq_true]
    intro ht
    have hnumber := congrArg Ticket.number ((awaits_select h.viewer id t).mp ht)
    simp only [select] at hnumber
    omega
  | complete t' f =>
    simp only [History.step]
    rcases h.viewer.complete_cases t' f with hc | hc
    · rw [hc]
      exact ⟨hold, hstale⟩
    · rw [hc]
      exact hsame rfl rfl
  | fail t' e =>
    simp only [History.step]
    rcases h.viewer.fail_cases t' with hf | hf
    · rw [hf]
      exact ⟨hold, hstale⟩
    · rw [hf]
      exact hclear
  | clear => exact hclear
  | apply c => exact hsame rfl rfl
  | submit values => exact hsame rfl rfl
  | reopen => exact hsame rfl rfl
  | drain =>
    simp only [History.step, drain, applyAll_eq]
    exact hsame rfl rfl

theorem not_awaits_run {h : History} {t : Ticket} (calls : List Call)
    (hold : t.number ≤ h.viewer.issued) (hstale : h.viewer.awaits t = false) :
    (h.run calls).viewer.awaits t = false :=
  (History.run_invariant
    (I := fun h => t.number ≤ h.viewer.issued ∧ h.viewer.awaits t = false)
    (fun _ c (_ : True) hh => not_awaits_step c hh.1 hh.2) (fun _ _ => trivial)
    ⟨hold, hstale⟩).2

theorem number_le_of_mem_tickets {policy : FailurePolicy} {log : List Event} {v : Viewer}
    (h : Ticketed policy log v) {t : Ticket} (ht : t ∈ tickets log) : t.number ≤ v.issued := by
  have hmem : t.number ∈ List.range' 1 v.issued := h.numbers ▸ List.mem_map_of_mem ht
  rw [List.mem_range'_1] at hmem
  omega

/-- After any calls, the tickets given out so far increase and count the selections; on one of them
a form or a failure is taken exactly if its selection stands; what is not taken leaves the viewer as
it is; and what is not taken on such a ticket now is not taken on it after any further calls. -/
theorem taken_iff_ticket_stands (policy : FailurePolicy) (calls : List Call) :
    let h := (History.start policy).run calls
    (tickets h.log).Pairwise (fun t t' => t.number < t'.number) ∧
    (∀ t ∈ tickets h.log, t.number ≤ (tickets h.log).length) ∧
    (∀ t ∈ tickets h.log, ∀ f, (h.viewer.complete t f).1 = true ↔ Stands policy t h.log) ∧
    (∀ t ∈ tickets h.log, (h.viewer.fail t).1 = true ↔ Stands policy t h.log) ∧
    (∀ t f, (h.viewer.complete t f).1 = false → (h.viewer.complete t f).2 = h.viewer) ∧
    (∀ t, (h.viewer.fail t).1 = false → (h.viewer.fail t).2 = h.viewer) ∧
    (∀ t ∈ tickets h.log, ¬ Stands policy t h.log → ∀ more f,
      ((h.run more).viewer.complete t f).1 = false ∧ ((h.run more).viewer.fail t).1 = false) := by
  intro h
  have hh : Ticketed policy h.log h.viewer := History.ticketed_run policy calls
  have hlength : (tickets h.log).length = h.viewer.issued := by
    simpa using congrArg List.length hh.numbers
  refine ⟨?_, fun t ht => ?_, fun t _ f => ?_, fun t _ => ?_, fun t f ht => ?_, fun t ht => ?_,
    fun t ht hstale more f => ?_⟩
  · rw [← List.pairwise_map, hh.numbers]
    exact List.pairwise_lt_range'
  · exact hlength ▸ number_le_of_mem_tickets hh ht
  · rw [complete_fst, hh.awaits_iff_stands]
  · rw [fail_fst, hh.awaits_iff_stands]
  · rw [complete_fst] at ht
    rw [complete_of_not_awaits ht]
  · rw [fail_fst] at ht
    rw [fail_of_not_awaits ht]
  · have hnow : h.viewer.awaits t = false := by
      rwa [← hh.awaits_iff_stands, Bool.not_eq_true] at hstale
    have hlater := not_awaits_run more (number_le_of_mem_tickets hh ht) hnow
    exact ⟨(complete_fst _ t f).trans hlater, (fail_fst _ t).trans hlater⟩

end Viewer
end ComponentForm

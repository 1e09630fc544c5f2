import ComponentForm.Pane.Screen
import ComponentForm.Proofs.Pane.History

/-! What the pane shows belongs to the selected component. As long as nobody but the form on display
asks for changes, a form in the pane is, up to its values, the one that was loaded last, on a ticket
of the component that is still selected. -/
namespace ComponentForm

def Change.isEdit : Change → Bool
  | .submitted _ => true
  | .reopened => true
  | _ => false

namespace Viewer

/-- Whether the call applies no change but such as a form can ask for. -/
def Call.isOrdinary : Call → Bool
  | .apply c => c.isEdit
  | _ => true

def Event.isAccepted : Event → Bool
  | .completed _ _ taken => taken
  | _ => false

def Event.selectsOther (id : String) : Event → Bool
  | .selected other _ => other ≠ id
  | _ => false

/-- Whether the component stays selected over the call and no form is loaded by it. -/
def Event.keeps (policy : FailurePolicy) (id : String) (e : Event) : Bool :=
  !e.isAccepted && !e.drops policy && !e.selectsOther id

/-- The form is, up to its values, the last one that was accepted; it came on a ticket of the
component, and the component has stayed selected since. -/
def BelongsTo (policy : FailurePolicy) (id : String) (f : Form) : List Event → Prop :=
  Since
    (fun before e => ∃ t g, e = .completed t g true ∧ .selected id t ∈ before ∧
      f = g.withValues f.values)
    (fun e => e.keeps policy id = true)

theorem BelongsTo.concat {policy : FailurePolicy} {id : String} {f : Form} {log : List Event}
    {e : Event} (h : BelongsTo policy id f log) (he : e.keeps policy id = true) :
    BelongsTo policy id f (log ++ [e]) :=
  since_concat.mpr (Or.inr ⟨h, he⟩)

theorem BelongsTo.withValues {policy : FailurePolicy} {id : String} {f : Form} {log : List Event}
    (h : BelongsTo policy id f log) (values : Document) :
    BelongsTo policy id (f.withValues values) log := by
  obtain ⟨before, e, later, hlog, ⟨t, g, he, ht, hf⟩, hlater⟩ := h
  refine ⟨before, e, later, hlog, ⟨t, g, he, ht, ?_⟩, hlater⟩
  rw [hf]
  rfl

/-- The invariant of ordinary calls. The ticket of the selection is in the log, so that the form
that comes on it belongs to the selected component. -/
structure Isolated (policy : FailurePolicy) (log : List Event) (v : Viewer) : Prop where
  policy_eq : v.policy = policy
  idle : v.selected? = none → v.pane = .empty
  shown : v.selected? ≠ none → v.pane.loading = true ∨ v.pane.form.isSome = true
  issued : ∀ id t, v.current = some (id, t) → .selected id t ∈ log
  origin : ∀ f, v.pane.form = some f → ∃ id, v.selected? = some id ∧ BelongsTo policy id f log
  submitted : v.pane.submitted = true → v.pane.form.isSome = true

namespace Isolated

variable {policy : FailurePolicy} {log : List Event} {v : Viewer}

theorem new (policy : FailurePolicy) : Isolated policy [] (.new policy) where
  policy_eq := rfl
  idle _ := rfl
  shown h := absurd rfl h
  issued _ _ h := nomatch h
  origin _ h := nomatch h
  submitted h := nomatch h

theorem note (h : Isolated policy log v) {e : Event} (he : ∀ id, e.keeps policy id = true) :
    Isolated policy (log ++ [e]) v where
  policy_eq := h.policy_eq
  idle := h.idle
  shown := h.shown
  issued id t ht := List.mem_append_left _ (h.issued id t ht)
  origin f hf := by
    obtain ⟨id, hid, hb⟩ := h.origin f hf
    exact ⟨id, hid, hb.concat (he id)⟩
  submitted := h.submitted

theorem reopened (h : Isolated policy log v) : Isolated policy log (v.apply .reopened) where
  policy_eq := h.policy_eq
  idle hv := by simp [apply, h.idle hv, Pane.empty]
  shown := h.shown
  issued := h.issued
  origin := h.origin
  submitted hs := nomatch hs

theorem submit (h : Isolated policy log v) (values : Document) :
    Isolated policy log (v.apply (.submitted values)) := by
  by_cases hp : v.pane.form.isSome = true ∧ v.pane.loading = false
  · obtain ⟨g, hg⟩ := Option.isSome_iff_exists.mp hp.1
    have hpane : (v.apply (.submitted values)).pane =
        { v.pane with form := some (g.withValues values), submitted := true } := by
      simp [apply, Pane.after_submitted, hp.2, hg]
    obtain ⟨id, hid, hb⟩ := h.origin g hg
    refine ⟨h.policy_eq, fun hv => ?_, fun _ => ?_, h.issued, fun f hf => ?_, fun _ => ?_⟩
    · have hnone : v.selected? = none := hv
      simp [hid] at hnone
    · simp [hpane]
    · obtain rfl : g.withValues values = f := by simpa [hpane] using hf
      exact ⟨id, hid, hb.withValues values⟩
    · simp [hpane]
  · have hpane : v.apply (.submitted values) = v := by simp [apply, Pane.after_submitted, hp]
    rwa [hpane]

theorem edit (h : Isolated policy log v) {c : Change} (hc : c.isEdit = true) :
    Isolated policy log (v.apply c) := by
  cases c with
  | submitted values => exact h.submit values
  | reopened => exact h.reopened
  | loadStarted => simp [Change.isEdit] at hc
  | loaded f => simp [Change.isEdit] at hc

theorem editAll (h : Isolated policy log v) {cs : List Change} (hcs : ∀ c ∈ cs, c.isEdit = true) :
    Isolated policy log (v.applyAll cs) := by
  induction cs generalizing v with
  | nil => exact h
  | cons c cs ih =>
    rw [List.forall_mem_cons] at hcs
    exact ih (h.edit hcs.1) hcs.2

theorem select (h : Isolated policy log v) (id : String) :
    Isolated policy (log ++ [.selected id (v.select id).1]) (v.select id).2 := by
  have hkept : ∀ {pane : Pane}, (v.select id).2.pane = { pane with loading := true } →
      (∀ f, pane.form = some f → BelongsTo policy id f log) →
      (pane.submitted = true → pane.form.isSome = true) →
      Isolated policy (log ++ [.selected id (v.select id).1]) (v.select id).2 := by
    intro pane hpane horigin hsubmitted
    refine ⟨h.policy_eq, fun hv => (nomatch hv), fun _ => ?_, fun id' t ht => ?_,
      fun f hf => ?_, ?_⟩
    · simp [hpane]
    · obtain ⟨rfl, rfl⟩ : id = id' ∧ (v.select id).1 = t := by simpa [Viewer.select] using ht
      simp
    · have hb := horigin f (by simpa [hpane] using hf)
      have hkeeps : (Event.selected id (v.select id).1).keeps policy id = true := by
        simp [Event.keeps, Event.isAccepted, Event.drops, Event.selectsOther]
      exact ⟨id, rfl, hb.concat hkeeps⟩
    · simpa [hpane] using hsubmitted
  cases hv : v.selected? with
  | none =>
    have hempty := h.idle hv
    exact hkept (pane_select_of_none hv id) (by simp [hempty, Pane.empty]) h.submitted
  | some other =>
    by_cases hne : other = id
    · subst hne
      refine hkept (pane_select_of_selected hv) (fun f hf => ?_) h.submitted
      obtain ⟨id, hid, hb⟩ := h.origin f hf
      obtain rfl : other = id := by simpa [hv] using hid
      exact hb
    · exact hkept (pane_select_of_ne hv hne) (by simp [Pane.empty]) (by simp [Pane.empty])

theorem clear (h : Isolated policy log v) (e : Event) : Isolated policy (log ++ [e]) v.clear :=
  ⟨h.policy_eq, fun _ => rfl, fun hv => absurd rfl hv, fun _ _ ht => (nomatch ht),
    fun _ hf => (nomatch hf), fun hs => (nomatch hs)⟩

theorem complete (h : Isolated policy log v) (t : Ticket) (f : Form) :
    Isolated policy (log ++ [.completed t f (v.complete t f).1]) (v.complete t f).2 := by
  cases ht : v.awaits t with
  | false =>
    rw [complete_of_not_awaits ht]
    exact h.note fun id => rfl
  | true =>
    rw [complete_of_awaits ht]
    obtain ⟨⟨id, t'⟩, hcurrent, rfl⟩ := Option.map_eq_some_iff.mp ((awaits_iff v t).mp ht)
    have hid : v.selected? = some id := by simp [selected?, hcurrent]
    refine ⟨h.policy_eq, fun hv => ?_, fun _ => Or.inr rfl,
      fun id t ht => List.mem_append_left _ (h.issued id t ht), fun g hg => ?_,
      fun hs => (nomatch hs)⟩
    · have hnone : v.selected? = none := hv
      simp [hid] at hnone
    · obtain rfl : f = g := by simpa [apply] using hg
      exact ⟨id, hid, since_concat.mpr (Or.inl ⟨t', f, rfl, h.issued id t' hcurrent, rfl⟩)⟩

theorem fail (h : Isolated policy log v) (t : Ticket) (e : LoadError) :
    Isolated policy (log ++ [.failed t e (v.fail t).1]) (v.fail t).2 := by
  cases ht : v.awaits t with
  | false =>
    rw [fail_of_not_awaits ht]
    exact h.note fun id => rfl
  | true =>
    rw [fail_of_awaits ht, h.policy_eq]
    cases policy with
    | resetSelection => exact h.clear _
    | keepLoading => exact h.note fun id => rfl

end Isolated

/-- The invariant of a history of ordinary calls: the queue holds nothing but what a form asks
for. -/
structure History.Orderly (policy : FailurePolicy) (h : History) : Prop where
  isolated : Isolated policy h.log h.viewer
  edits : ∀ c ∈ h.queue.waiting, c.isEdit = true

theorem edits_send {q : ChangeQueue} (h : ∀ c ∈ q.waiting, c.isEdit = true) (edit : Change)
    (hedit : edit.isEdit = true) : ∀ c ∈ (q.send edit).2.waiting, c.isEdit = true := by
  unfold ChangeQueue.send
  split
  · intro c hc
    rcases List.mem_append.mp hc with hc | hc
    · exact h c hc
    · rwa [List.mem_singleton.mp hc]
  · exact h

theorem History.orderly_step {policy : FailurePolicy} (h : History) (c : Call)
    (hc : c.isOrdinary = true) (hh : h.Orderly policy) : (h.step c).Orderly policy := by
  cases c with
  | select id => exact ⟨hh.isolated.select id, hh.edits⟩
  | complete t f => exact ⟨hh.isolated.complete t f, hh.edits⟩
  | fail t e => exact ⟨hh.isolated.fail t e, hh.edits⟩
  | clear => exact ⟨hh.isolated.clear _, hh.edits⟩
  | apply c => exact ⟨(hh.isolated.edit hc).note fun id => rfl, hh.edits⟩
  | submit values =>
    exact ⟨hh.isolated.note fun id => rfl, edits_send hh.edits (.submitted values) rfl⟩
  | reopen => exact ⟨hh.isolated.note fun id => rfl, edits_send hh.edits .reopened rfl⟩
  | drain => exact ⟨(hh.isolated.editAll hh.edits).note fun id => rfl, by simp [step, drain]⟩

/-- In every state that ordinary calls lead to, nothing is selected exactly when the pane is empty;
a form in the pane belongs to the selected component; and only a form can be submitted. -/
theorem shown_form_belongs_to_selection (policy : FailurePolicy) (calls : List Call)
    (hcalls : ∀ c ∈ calls, c.isOrdinary = true) :
    let h := (History.start policy).run calls
    (h.viewer.selected? = none ↔ Screen.ofPane h.viewer.pane = .empty) ∧
    (h.viewer.selected? = none → h.viewer.pane = .empty) ∧
    (∀ f, h.viewer.pane.form = some f →
      ∃ id, h.viewer.selected? = some id ∧ BelongsTo policy id f h.log) ∧
    (h.viewer.pane.submitted = true → h.viewer.pane.form.isSome = true) := by
  intro h
  have hstart : (History.start policy).Orderly policy :=
    ⟨.new policy, by simp [History.start, ChangeQueue.new]⟩
  have hh : h.Orderly policy := History.run_invariant History.orderly_step hcalls hstart
  obtain ⟨hi, -⟩ := hh
  refine ⟨⟨fun hv => ?_, fun hs => ?_⟩, hi.idle, hi.origin, hi.submitted⟩
  · rw [hi.idle hv]
    rfl
  · obtain ⟨hloading, hform⟩ := (Screen.ofPane_eq_empty_iff _).mp hs
    cases hv : h.viewer.selected? with
    | none => rfl
    | some id => simpa [hloading, hform] using hi.shown (by simp [hv])

/-- A form that was submitted stays with its component while the component is loaded again. -/
theorem reloaded_form_belongs_to_selection :
    let calls : List Call :=
      [.select "a", .complete ⟨1⟩ default, .submit (.bool true), .drain, .select "a"]
    (∀ c ∈ calls, c.isOrdinary = true) ∧
    ∃ id, ((History.start .resetSelection).run calls).viewer.selected? = some id ∧
      BelongsTo .resetSelection id ((default : Form).withValues (.bool true))
        ((History.start .resetSelection).run calls).log :=
  ⟨by decide, (shown_form_belongs_to_selection .resetSelection _ (by decide)).2.2.1 _ rfl⟩

end Viewer
end ComponentForm

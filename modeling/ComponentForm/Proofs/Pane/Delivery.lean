import ComponentForm.Proofs.Pane.Isolation

/-! Where a submission ends up. In the queue a submission says nothing of the form it was made on. When
the queue is drained it reaches the form that is on display by then, whichever component that belongs
to, and it is lost if there is none. -/
namespace ComponentForm
namespace Viewer

theorem edit_cases {c : Change} (h : c.isEdit = true) :
    (∃ values, c = .submitted values) ∨ c = .reopened := by
  cases c with
  | submitted values => exact Or.inl ⟨values, rfl⟩
  | reopened => exact Or.inr rfl
  | loadStarted => simp [Change.isEdit] at h
  | loaded f => simp [Change.isEdit] at h

structure Displays (v : Viewer) (id : String) (f : Form) : Prop where
  selected : v.selected? = some id
  loaded : v.pane.loading = false
  form : v.pane.form = some f

namespace Displays

variable {v : Viewer} {id : String} {f : Form}

theorem submit (h : v.Displays id f) (values : Document) :
    (v.apply (.submitted values)).Displays id (f.withValues values) := by
  have hpane : (v.apply (.submitted values)).pane =
      { v.pane with form := some (f.withValues values), submitted := true } := by
    simp [apply, Pane.after_submitted, h.loaded, h.form]
  exact ⟨h.selected, by rw [hpane]; exact h.loaded, by rw [hpane]⟩

theorem reopen (h : v.Displays id f) : (v.apply .reopened).Displays id f :=
  ⟨h.selected, h.loaded, h.form⟩

theorem editAll (h : v.Displays id f) {cs : List Change} (hcs : ∀ c ∈ cs, c.isEdit = true) :
    ∃ values, (v.applyAll cs).Displays id (f.withValues values) := by
  induction cs generalizing v f with
  | nil => exact ⟨f.values, h⟩
  | cons c cs ih =>
    rw [List.forall_mem_cons] at hcs
    rcases edit_cases hcs.1 with ⟨values, rfl⟩ | rfl
    · obtain ⟨last, hlast⟩ := ih (h.submit values) hcs.2
      exact ⟨last, hlast⟩
    · exact ih h.reopen hcs.2

theorem reopenAll (h : v.Displays id f) {cs : List Change} (hcs : ∀ c ∈ cs, c.isEdit = true)
    (hnone : ∀ values, .submitted values ∉ cs) : (v.applyAll cs).Displays id f := by
  induction cs generalizing v with
  | nil => exact h
  | cons c cs ih =>
    rw [List.forall_mem_cons] at hcs
    rcases edit_cases hcs.1 with ⟨values, rfl⟩ | rfl
    · exact absurd List.mem_cons_self (hnone values)
    · exact ih h.reopen hcs.2 fun values hmem => hnone values (List.mem_cons_of_mem _ hmem)

end Displays

theorem form_editAll {v : Viewer} (h : v.pane.loading = true ∨ v.pane.form = none) {cs : List Change}
    (hcs : ∀ c ∈ cs, c.isEdit = true) : (v.applyAll cs).pane.form = v.pane.form := by
  induction cs generalizing v with
  | nil => rfl
  | cons c cs ih =>
    rw [List.forall_mem_cons] at hcs
    rcases edit_cases hcs.1 with ⟨values, rfl⟩ | rfl
    · have hlost : v.apply (.submitted values) = v := by
        rcases h with h | h <;> simp [apply, Pane.after_submitted, h]
      have hcons : v.applyAll (.submitted values :: cs) = v.applyAll cs := by
        rw [applyAll, List.foldl_cons, hlost, applyAll]
      rw [hcons]
      exact ih h hcs.2
    · exact @ih (v.apply .reopened) h hcs.2

theorem applyAll_append (v : Viewer) (front back : List Change) :
    v.applyAll (front ++ back) = (v.applyAll front).applyAll back :=
  List.foldl_append

namespace History

/-- The invariant of all calls: the queue is open, and holds nothing but what a form asks for. -/
structure Open (h : History) : Prop where
  watched : h.queue.watched = true
  edits : ∀ c ∈ h.queue.waiting, c.isEdit = true

theorem waiting_send {q : ChangeQueue} (h : q.watched = true) (c : Change) :
    (q.send c).2 = { q with waiting := q.waiting ++ [c] } := by
  simp [ChangeQueue.send, h]

theorem Open.step {h : History} (hh : h.Open) (c : Call) : (h.step c).Open := by
  cases c with
  | submit values =>
    refine ⟨?_, edits_send hh.edits (.submitted values) rfl⟩
    simp only [History.step, ChangeQueue.submit, waiting_send hh.watched]
    exact hh.watched
  | reopen =>
    refine ⟨?_, edits_send hh.edits .reopened rfl⟩
    simp only [History.step, ChangeQueue.reopen, waiting_send hh.watched]
    exact hh.watched
  | drain => exact ⟨hh.watched, by simp [History.step, drain]⟩
  | select id => exact ⟨hh.watched, hh.edits⟩
  | complete t f => exact ⟨hh.watched, hh.edits⟩
  | fail t e => exact ⟨hh.watched, hh.edits⟩
  | clear => exact ⟨hh.watched, hh.edits⟩
  | apply c => exact ⟨hh.watched, hh.edits⟩

theorem Open.run {h : History} (hh : h.Open) (calls : List Call) : (h.run calls).Open :=
  run_invariant (fun _ c (_ : True) hh => hh.step c) (fun _ _ => trivial) hh

theorem open_start (policy : FailurePolicy) : (start policy).Open :=
  ⟨rfl, by simp [start, ChangeQueue.new]⟩

theorem waiting_step {h : History} (hh : h.Open) {c : Call} (hc : c ≠ .drain) :
    ∃ more, (h.step c).queue.waiting = h.queue.waiting ++ more := by
  cases c with
  | submit values =>
    exact ⟨[.submitted values], congrArg ChangeQueue.waiting (waiting_send hh.watched _)⟩
  | reopen => exact ⟨[.reopened], congrArg ChangeQueue.waiting (waiting_send hh.watched _)⟩
  | drain => exact absurd rfl hc
  | select id => exact ⟨[], (List.append_nil _).symm⟩
  | complete t f => exact ⟨[], (List.append_nil _).symm⟩
  | fail t e => exact ⟨[], (List.append_nil _).symm⟩
  | clear => exact ⟨[], (List.append_nil _).symm⟩
  | apply c => exact ⟨[], (List.append_nil _).symm⟩

theorem waiting_run {h : History} (hh : h.Open) {calls : List Call} (hcalls : .drain ∉ calls) :
    ∃ more, (h.run calls).queue.waiting = h.queue.waiting ++ more := by
  induction calls generalizing h with
  | nil => exact ⟨[], (List.append_nil _).symm⟩
  | cons c calls ih =>
    rw [List.mem_cons, not_or] at hcalls
    obtain ⟨more, hstep⟩ := waiting_step hh (Ne.symm hcalls.1)
    obtain ⟨more', hrun⟩ := ih (hh.step c) hcalls.2
    exact ⟨more ++ more', by rw [run_cons, hrun, hstep, List.append_assoc]⟩

end History

/-- A submission that waits in the queue reaches the form that is on display when the queue is
drained, whichever component it was made on; it is the one that counts unless others wait behind it;
and while the pane is loading or has no form, it reaches none. -/
theorem submission_reaches_form_on_display (policy : FailurePolicy) (before : List Call)
    {between : List Call} (hbetween : .drain ∉ between) (values : Document) :
    let earlier := ((History.start policy).run before).queue.waiting
    let h := (History.start policy).run (before ++ .submit values :: between)
    ∃ later, h.queue.waiting = earlier ++ .submitted values :: later ∧
      (∀ id f, h.viewer.Displays id f →
        (h.viewer.applyAll (earlier ++ [.submitted values])).Displays id (f.withValues values) ∧
        ((∀ other, .submitted other ∉ later) →
          (h.step .drain).viewer.Displays id (f.withValues values))) ∧
      (h.viewer.pane.loading = true ∨ h.viewer.pane.form = none →
        (h.step .drain).viewer.pane.form = h.viewer.pane.form) := by
  intro earlier h
  have hmade : ((History.start policy).run before).Open := (History.open_start policy).run before
  have hopen : h.Open := (History.open_start policy).run _
  obtain ⟨later, hwaiting⟩ : ∃ later, h.queue.waiting = earlier ++ .submitted values :: later := by
    obtain ⟨later, hlater⟩ := History.waiting_run (hmade.step (.submit values)) hbetween
    have hsubmit : (((History.start policy).run before).step (.submit values)).queue.waiting =
        earlier ++ [.submitted values] :=
      congrArg ChangeQueue.waiting (History.waiting_send hmade.watched _)
    have hrun : h = (((History.start policy).run before).step (.submit values)).run between := by
      simp only [h, History.run, List.foldl_append, List.foldl_cons]
    exact ⟨later, by rw [hrun, hlater, hsubmit, List.append_assoc, List.singleton_append]⟩
  have hedits := hopen.edits
  rw [hwaiting, List.forall_mem_append, List.forall_mem_cons] at hedits
  refine ⟨later, hwaiting, fun id f hf => ?_, fun hnone => form_editAll hnone hopen.edits⟩
  obtain ⟨others, hearlier⟩ := hf.editAll hedits.1
  have hreached : (h.viewer.applyAll (earlier ++ [.submitted values])).Displays id
      (f.withValues values) := by
    rw [applyAll_append]
    exact hearlier.submit values
  refine ⟨hreached, fun hlater => ?_⟩
  have hdrain : (h.step .drain).viewer =
      (h.viewer.applyAll (earlier ++ [.submitted values])).applyAll later := by
    change h.viewer.applyAll h.queue.waiting = _
    rw [hwaiting, ← applyAll_append, List.append_assoc, List.singleton_append]
  rw [hdrain]
  exact hreached.reopenAll hedits.2.2 hlater

/-- A submission that was made before its component was loaded again reaches the new form, and the
one that waits behind it comes after it. -/
theorem submission_reaches_reloaded_form :
    let f : Form := { (default : Form) with messages := some .null }
    let between : List Call := [.select "a", .complete ⟨2⟩ f, .submit .null]
    let h := (History.start .keepLoading).run
      ([.select "a", .complete ⟨1⟩ default, .reopen] ++ .submit (.bool true) :: between)
    .drain ∉ between ∧ h.viewer.Displays "a" f ∧
      (h.viewer.applyAll [.reopened, .submitted (.bool true)]).Displays "a"
        (f.withValues (.bool true)) := by
  intro f between h
  have hbetween : .drain ∉ between := by simp [between]
  have hdisplays : h.viewer.Displays "a" f := ⟨rfl, rfl, rfl⟩
  obtain ⟨later, -, hreached, -⟩ := submission_reaches_form_on_display .keepLoading
    [.select "a", .complete ⟨1⟩ default, .reopen] hbetween (.bool true)
  exact ⟨hbetween, hdisplays, (hreached "a" f hdisplays).1⟩

/-- A submission made on the form of one component ends up in the form of another. -/
theorem late_submission_reaches_other_form :
    let a : Form := (default : Form).withValues (.object [("of", .string "a")])
    let b : Form := (default : Form).withValues (.object [("of", .string "b")])
    let values : Document := .object [("of", .string "a"), ("sent", .bool true)]
    let made := (History.start .keepLoading).run [.select "a", .complete ⟨1⟩ a]
    let h := made.run [.submit values, .select "b", .complete ⟨2⟩ b]
    made.viewer.Displays "a" a ∧ h.viewer.Displays "b" b ∧
      (h.step .drain).viewer.Displays "b" (b.withValues values) :=
  ⟨⟨rfl, rfl, rfl⟩, ⟨rfl, rfl, rfl⟩, ⟨rfl, rfl, rfl⟩⟩

end Viewer
end ComponentForm

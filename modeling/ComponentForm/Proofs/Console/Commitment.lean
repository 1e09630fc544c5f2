import ComponentForm.Proofs.Console.Run

/-! What a run commits. The pane holds the form as it was loaded until the run submits, and then
that form with other values: what triggers do to the copy gets out by way of its values only. -/
namespace ComponentForm

theorem exists_split_of_lt_countP {α : Type u} {p : α → Bool} {xs : List α} {n : Nat}
    (h : n < xs.countP p) : ∃ front x back, xs = front ++ x :: back ∧ p x = true ∧ front.countP p = n := by
  induction xs generalizing n with
  | nil => simp at h
  | cons x xs ih =>
    cases hx : p x with
    | true =>
      cases n with
      | zero => exact ⟨[], x, xs, rfl, hx, rfl⟩
      | succ n =>
        rw [List.countP_cons_of_pos hx] at h
        obtain ⟨front, y, back, rfl, hy, hcount⟩ := ih (Nat.lt_of_succ_lt_succ h)
        exact ⟨x :: front, y, back, rfl, hy, by rw [List.countP_cons_of_pos hx, hcount]⟩
    | false =>
      have hneg : ¬ p x = true := by rw [hx]; decide
      rw [List.countP_cons_of_neg hneg] at h
      obtain ⟨front, y, back, rfl, hy, hcount⟩ := ih h
      exact ⟨x :: front, y, back, rfl, hy, by rw [List.countP_cons_of_neg hneg, hcount]⟩

namespace Runner

/-- The invariant of a run that has its form and has submitted nothing. -/
structure Uncommitted (plan : Plan) (loaded copy : Form) (remaining : Nat) (r : Runner) : Prop where
  pane : r.viewer.pane = ⟨false, some loaded, false⟩
  changes : r.changes = .new
  copied : r.working = some copy
  pending : r.pending = remaining
  plan_eq : r.plan = plan

namespace Uncommitted

variable {plan : Plan} {loaded copy : Form} {remaining : Nat} {r : Runner}

theorem heard (h : Uncommitted plan loaded copy remaining r) (answers : List Report)
    (lines : List String) :
    Uncommitted plan loaded (copy.takingAll (answers.filterMap Report.outcome?))
      (remaining - answers.length) ((r.heard answers).telling lines) where
  pane := h.pane
  changes := h.changes
  copied := by
    change r.working.map _ = _
    rw [h.copied, Option.map_some]
  pending := by
    change r.pending - _ = _
    rw [h.pending]
  plan_eq := h.plan_eq

theorem finish_of_not_submit (h : Uncommitted plan loaded copy remaining r)
    (hsubmit : plan.submit = false) : r.finish = (.ok (), r) := by
  simp [finish, h.plan_eq, hsubmit]

/-- A submission writes the values of the plan or else those of the copy into the form that was
loaded. -/
theorem finish_of_submit (h : Uncommitted plan loaded copy remaining r)
    (hsubmit : plan.submit = true) :
    ∃ r', r.finish = (.ok (), r') ∧ r'.viewer.pane =
      ⟨false, some (loaded.withValues (plan.values.getD copy.values)), !plan.reopen⟩ := by
  obtain ⟨⟨pane, current, issued, policy⟩, changes, errands, working, pending, plan', lines⟩ := r
  obtain ⟨rfl, rfl, rfl, -, rfl⟩ := h
  simp only at hsubmit
  have hvalues (values : Document) :
      ChangeQueue.new.submit values = (.ok (), ⟨[.submitted values], true⟩) := rfl
  simp only [finish, submission?, hsubmit, Option.map_some, Option.or_some, hvalues]
  cases plan'.reopen with
  | false => exact ⟨_, rfl, rfl⟩
  | true => exact ⟨_, rfl, rfl⟩

theorem answered (h : Uncommitted plan loaded copy remaining r) {later : List Report}
    (hlater : ∀ a ∈ later, a.isAnswer = true ∨ a.isIdle r.viewer = true)
    (henough : remaining ≤ later.countP Report.isAnswer) :
    ∃ read rest r', later = read ++ rest ∧ read.countP Report.isAnswer = remaining ∧
      (∀ a ∈ read.getLast?, a.isAnswer = true) ∧
      Uncommitted plan loaded (copy.takingAll (read.filterMap Report.outcome?)) 0 r' ∧
      r'.errands = r.errands ∧
      (if r.pending = 0 then (r.finish.1, later, r.finish.2) else r.follow later) =
        (r'.finish.1, rest, r'.finish.2) := by
  cases remaining with
  | zero => exact ⟨[], later, r, rfl, rfl, by simp, h, rfl, if_pos h.pending⟩
  | succ n =>
    obtain ⟨front, a, rest, rfl, ha, hcount⟩ := exists_split_of_lt_countP henough
    have hfront := (List.forall_mem_append.mp hlater).1
    have hread : (front ++ [a]).countP Report.isAnswer = n + 1 := by
      rw [List.countP_append, List.countP_singleton, if_pos ha, hcount]
    obtain ⟨lines, hend⟩ := follow_last hfront ha (by rw [h.pending, hcount])
    have hheard := h.heard ((front ++ [a]).filter Report.isAnswer) lines
    rw [Report.filterMap_outcome?, ← List.countP_eq_length_filter, hread, Nat.sub_self] at hheard
    have hpending : r.pending ≠ 0 := by rw [h.pending]; exact Nat.succ_ne_zero n
    exact ⟨front ++ [a], rest, _, by simp, hread, by simpa using ha, hheard, rfl,
      by rw [if_neg hpending, hend rest]⟩

/-- The answers to all firings lead to the end of the run, with the copy that they made. -/
theorem settled (h : Uncommitted plan loaded copy remaining r) {answers : List Report}
    (hanswers : ∀ a ∈ answers, a.isAnswer = true) (hsettled : remaining ≤ answers.length) :
    ∃ r', Uncommitted plan loaded
        (copy.takingAll ((answers.take remaining).filterMap Report.outcome?)) 0 r' ∧
      (if r.pending = 0 then (r.finish.1, answers, r.finish.2) else r.follow answers) =
        (r'.finish.1, answers.drop remaining, r'.finish.2) := by
  have henough : remaining ≤ answers.countP Report.isAnswer := by
    rw [List.countP_eq_length.mpr hanswers]
    exact hsettled
  obtain ⟨read, rest, r', rfl, hcount, -, hr', -, hend⟩ :=
    h.answered (fun a ha => Or.inl (hanswers a ha)) henough
  have hlength : read.length = remaining := by
    rw [← hcount, List.countP_eq_length.mpr (List.forall_mem_append.mp hanswers).1]
  rw [List.take_left' hlength, List.drop_left' hlength]
  exact ⟨r', hr', hend⟩

end Uncommitted

/-- With room for its errands a run comes to hold the form, whatever else is reported before it, and
to wait for every firing. -/
theorem run_opened (policy : FailurePolicy) {capacity : Nat} (plan : Plan) (id : String)
    {form : Form} (hroom : (firings form plan.triggers).length < capacity) {early : List Report}
    (hearly : ∀ a ∈ early, a.isIdle ((Viewer.new policy).select id).2 = true) :
    ∃ r, Uncommitted plan form form (firings form plan.triggers).length r ∧
      r.viewer = ((Viewer.new policy).select id).2.apply (.loaded form) ∧
      r.errands.waiting = .load ((Viewer.new policy).select id).1 id ::
        (firings form plan.triggers).map .fire ∧
      ∀ rest, (new policy capacity plan).run id
          (early ++ .loaded ((Viewer.new policy).select id).1 form :: rest) =
        if r.pending = 0 then (r.finish.1, rest, r.finish.2) else r.follow rest := by
  obtain ⟨lines, hrun⟩ := run_of_room policy plan id
  let r : Runner := (waiting policy capacity plan id).telling lines
  have hawaited : r.viewer.awaits ((Viewer.new policy).select id).1 = true :=
    (Viewer.awaits_select _ id _).mpr rfl
  have hplace : r.errands.waiting.length + (firings form r.plan.triggers).length ≤
      r.errands.capacity := by
    change 1 + (firings form plan.triggers).length ≤ capacity
    omega
  obtain ⟨lines', htake⟩ := take_loaded hawaited form
  refine ⟨((r.opened form).fired (firings form plan.triggers)).telling lines',
    ⟨rfl, rfl, rfl, Nat.zero_add _, rfl⟩, rfl, rfl, fun rest => ?_⟩
  rw [hrun capacity (Nat.zero_lt_of_lt hroom), follow_idles hearly]
  exact follow_of_settle ((htake r.errands rfl).1 hplace) rest

theorem run_loaded (policy : FailurePolicy) {capacity : Nat} (plan : Plan) (id : String)
    {form : Form} (hroom : (firings form plan.triggers).length < capacity) :
    ∃ r, Uncommitted plan form form (firings form plan.triggers).length r ∧
      ∀ rest, (new policy capacity plan).run id
          (.loaded ((Viewer.new policy).select id).1 form :: rest) =
        if r.pending = 0 then (r.finish.1, rest, r.finish.2) else r.follow rest := by
  obtain ⟨r, hr, -, -, hrun⟩ := run_opened policy plan id hroom (List.forall_mem_nil _)
  exact ⟨r, hr, hrun⟩

/-- Answers to the firings reach the pane by a submission only, as long as the errands of the run
find room: the one that loads, and a firing for each trigger. Until all firings are answered the
pane holds the loaded form as it is; then the run ends well, and either leaves it at that or has
submitted that form with the values of the plan or with those that the answers led to. -/
theorem run_commits_by_submission_only (policy : FailurePolicy) {capacity : Nat} (plan : Plan)
    (id : String) (form : Form) {answers : List Report}
    (hanswers : ∀ a ∈ answers, a.isAnswer = true)
    (hroom : (firings form plan.triggers).length < capacity) :
    let t := ((Viewer.new policy).select id).1
    let n := (firings form plan.triggers).length
    let run := fun reports => (new policy capacity plan).run id (.loaded t form :: reports)
    (∀ front back, answers = front ++ back → front.length < n → ∃ r,
      run front = (.error .unsettled, [], r) ∧ r.viewer.pane = ⟨false, some form, false⟩ ∧
      run answers = r.follow back) ∧
    (n ≤ answers.length → ∃ r, run answers = (.ok (), answers.drop n, r) ∧
      r.viewer.pane =
        if plan.submit then
          let copy := form.takingAll ((answers.take n).filterMap Report.outcome?)
          ⟨false, some (form.withValues (plan.values.getD copy.values)), !plan.reopen⟩
        else ⟨false, some form, false⟩) := by
  intro t n run
  obtain ⟨r, hr, hrun⟩ := run_loaded policy plan id hroom
  refine ⟨fun front back hsplit hopen => ?_, fun hsettled => ?_⟩
  · subst hsplit
    have hopen' : front.length < r.pending := by rw [hr.pending]; exact hopen
    rw [List.forall_mem_append] at hanswers
    obtain ⟨lines, hfront⟩ := follow_answers hanswers.1 hopen'
    have hpending : r.pending ≠ 0 := by omega
    refine ⟨(r.heard front).telling lines, ?_, (hr.heard front lines).pane, ?_⟩
    · have hend := hfront []
      rw [List.append_nil] at hend
      simp only [run]
      rw [hrun, if_neg hpending, hend, follow]
    · simp only [run]
      rw [hrun, if_neg hpending, hfront]
  · obtain ⟨r', hr', hend⟩ := hr.settled hanswers hsettled
    have hrun' : run answers = (r'.finish.1, answers.drop n, r'.finish.2) :=
      (hrun answers).trans hend
    cases hsubmit : plan.submit with
    | false =>
      rw [hr'.finish_of_not_submit hsubmit] at hrun'
      exact ⟨r', hrun', hr'.pane⟩
    | true =>
      obtain ⟨final, hfinish, hpane⟩ := hr'.finish_of_submit hsubmit
      rw [hfinish] at hrun'
      exact ⟨final, hrun', hpane⟩

/-- Of two updates the first meets a value in its way, and only the second gets into what is
submitted. -/
theorem refused_update_is_not_submitted :
    let trigger : Trigger := ⟨"complete", "fields", .update, []⟩
    let form : Form := ⟨.null,
      .array [.object [("key", .string "f"), ("triggers", .array [trigger.toDocument])]],
      .object [("f", .bool true)], none, []⟩
    let reports : List Report := [.loaded ⟨1⟩ form, .resolved "f" (.updated "f" [("g", .null)]),
      .resolved "f" (.updated "" [("g", .bool false)])]
    let values : Document := .object [("f", .bool true), ("g", .bool false)]
    ∃ r, (new .keepLoading 4 ⟨["f", "f"], true, none, false⟩).run "a" reports = (.ok (), [], r) ∧
      r.viewer.pane = ⟨false, some (form.withValues values), true⟩ := by
  intro trigger form reports values
  exact (run_commits_by_submission_only .keepLoading ⟨["f", "f"], true, none, false⟩ "a" form
    (by decide) (by decide)).2 (by decide)

end Runner
end ComponentForm

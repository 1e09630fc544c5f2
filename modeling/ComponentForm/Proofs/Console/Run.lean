import ComponentForm.Console.Runner
import ComponentForm.Proofs.Document.Walk

/-! The course of a run. The run opens with the form and the firings that the plan names; every
answer goes into the copy of the form and nowhere else; the answer to the last firing ends the run.
Each step is told by the runner it leaves, up to the lines it adds to the transcript. -/
namespace ComponentForm

def Report.isAnswer : Report → Bool
  | .resolved _ _ => true
  | .failed _ _ => true
  | _ => false

def Report.outcome? : Report → Option Outcome
  | .resolved _ o => some o
  | _ => none

/-- Whether the report only says something, or answers a load that the viewer does not wait for. -/
def Report.isIdle (v : Viewer) : Report → Bool
  | .note _ => true
  | .loaded t _ => !v.awaits t
  | .loadFailed t _ => !v.awaits t
  | _ => false

theorem Report.outcome?_of_not_answer {a : Report} (h : a.isAnswer = false) : a.outcome? = none := by
  cases a with
  | resolved field o => simp [isAnswer] at h
  | _ => rfl

theorem Report.filterMap_outcome? (reports : List Report) :
    (reports.filter isAnswer).filterMap outcome? = reports.filterMap outcome? := by
  induction reports with
  | nil => rfl
  | cons a reports ih =>
    cases ha : a.isAnswer with
    | true => rw [List.filter_cons_of_pos ha, List.filterMap_cons, List.filterMap_cons, ih]
    | false => simp [ha, outcome?_of_not_answer ha, ih]

/-- The form after an outcome that it may refuse. -/
def Form.taking (f : Form) (o : Outcome) : Form :=
  match f.absorb o with
  | (.ok _, g) => g
  | (.error _, _) => f

def Form.takingAll (f : Form) (outcomes : List Outcome) : Form :=
  outcomes.foldl Form.taking f

theorem Form.absorb_snd (f : Form) (o : Outcome) : (f.absorb o).2 = f.taking o := by
  unfold taking
  cases h : f.absorb o with
  | mk outcome g =>
    cases outcome with
    | ok held => rfl
    | error e =>
      have hg : (f.absorb o).2 = f := absorb_snd_of_error (e := e) (by rw [h])
      rw [h] at hg
      exact hg

theorem ErrandQueue.send_of_room {q : ErrandQueue} (hserved : q.served = true)
    (hroom : q.waiting.length < q.capacity) (e : Errand) :
    q.send e = (.ok (), { q with waiting := q.waiting ++ [e] }) := by
  have hfree : ¬ q.capacity ≤ q.waiting.length := Nat.not_le.mpr hroom
  simp [send, hserved, hfree]

namespace Runner

def fired (r : Runner) (fs : List Firing) : Runner :=
  { r with
    pending := r.pending + fs.length
    errands := { r.errands with waiting := r.errands.waiting ++ fs.map .fire } }

def opened (r : Runner) (form : Form) : Runner :=
  { r with viewer := r.viewer.apply (.loaded form), working := some form }

def heard (r : Runner) (answers : List Report) : Runner :=
  { r with
    working := r.working.map (·.takingAll (answers.filterMap Report.outcome?))
    pending := r.pending - answers.length }

def telling (r : Runner) (lines : List String) : Runner :=
  { r with transcript := lines }

def withErrands (r : Runner) (q : ErrandQueue) : Runner :=
  { r with errands := q }

theorem fired_nil (r : Runner) : r.fired [] = r := by
  simp [fired]

theorem fired_cons (r : Runner) (f : Firing) (fs : List Firing) :
    r.fired (f :: fs) = (r.fired [f]).fired fs := by
  simp [fired, Nat.add_assoc, Nat.add_comm 1]

theorem heard_nil (r : Runner) : r.heard [] = r := by
  have hworking : r.working.map (·.takingAll []) = r.working := by cases r.working <;> rfl
  simp [heard, hworking]

theorem heard_append (r : Runner) (front back : List Report) :
    r.heard (front ++ back) = (r.heard front).heard back := by
  simp [heard, Form.takingAll, Function.comp_def, Nat.sub_sub]

theorem fireAll_cons_of_room {r : Runner} (hserved : r.errands.served = true)
    (hroom : r.errands.waiting.length < r.errands.capacity) (f : Firing) (rest : List Firing) :
    r.fireAll (f :: rest) = (r.fired [f]).fireAll rest := by
  have hsend : r.errands.send (.fire f) = (.ok (), (r.fired [f]).errands) :=
    ErrandQueue.send_of_room hserved hroom (.fire f)
  simp only [fireAll, order, hsend]
  rfl

theorem fireAll_of_room {r : Runner} {fs : List Firing} (hserved : r.errands.served = true)
    (hroom : r.errands.waiting.length + fs.length ≤ r.errands.capacity) :
    r.fireAll fs = (.ok (), r.fired fs) := by
  induction fs generalizing r with
  | nil => rw [fired_nil, fireAll]
  | cons f rest ih =>
    rw [List.length_cons] at hroom
    have hstep : r.fireAll (f :: rest) = (r.fired [f]).fireAll rest :=
      fireAll_cons_of_room hserved (by omega) f rest
    have hlength : (r.fired [f]).errands.waiting.length = r.errands.waiting.length + 1 := by
      simp [fired]
    have hcapacity : (r.fired [f]).errands.capacity = r.errands.capacity := rfl
    calc
      r.fireAll (f :: rest) = (r.fired [f]).fireAll rest := hstep
      _ = (.ok (), (r.fired [f]).fired rest) := ih hserved (by omega)
      _ = (.ok (), r.fired (f :: rest)) := by rw [fired_cons r f rest]

/-- Without room for all firings the run sends what finds room, and breaks off. -/
theorem fireAll_of_full {r : Runner} {fs : List Firing} (hserved : r.errands.served = true)
    (hwaiting : r.errands.waiting.length ≤ r.errands.capacity)
    (hfull : r.errands.capacity < r.errands.waiting.length + fs.length) :
    r.fireAll fs = (.error (.queueFull "fire_trigger"),
      r.fired (fs.take (r.errands.capacity - r.errands.waiting.length))) := by
  induction fs generalizing r with
  | nil => exact absurd hfull (Nat.not_lt.mpr hwaiting)
  | cons f rest ih =>
    rw [List.length_cons] at hfull
    by_cases hroom : r.errands.waiting.length < r.errands.capacity
    · have hstep : r.fireAll (f :: rest) = (r.fired [f]).fireAll rest :=
        fireAll_cons_of_room hserved hroom f rest
      have hlength : (r.fired [f]).errands.waiting.length = r.errands.waiting.length + 1 := by
        simp [fired]
      have hcapacity : (r.fired [f]).errands.capacity = r.errands.capacity := rfl
      have htake : (f :: rest).take (r.errands.capacity - r.errands.waiting.length) =
          f :: rest.take ((r.fired [f]).errands.capacity - (r.fired [f]).errands.waiting.length) := by
        rw [hlength, hcapacity, ← Nat.sub_sub,
          ← List.take_succ_cons, Nat.sub_add_cancel (Nat.sub_pos_of_lt hroom)]
      rw [hstep, @ih (r.fired [f]) hserved (by omega) (by omega), htake]
      exact congrArg (Prod.mk _) (fired_cons r f _).symm
    · have hsend : r.errands.send (.fire f) = (.error (.queueFull "fire_trigger"), r.errands) := by
        simp [ErrandQueue.send, hserved, Nat.not_lt.mp hroom, Errand.name]
      have hnone : r.errands.capacity - r.errands.waiting.length = 0 := by omega
      rw [hnone, List.take_zero, fired_nil]
      simp only [fireAll, order, hsend]

theorem start_of_room (r : Runner) (id : String) :
    ∃ lines, ∀ q : ErrandQueue, q.served = true → q.waiting.length < q.capacity →
      (r.withErrands q).start id = (.ok (), { r with
        viewer := (r.viewer.select id).2
        errands := { q with waiting := q.waiting ++ [.load (r.viewer.select id).1 id] }
        transcript := lines }) := by
  refine ⟨(({ r with viewer := (r.viewer.select id).2 } : Runner).telling r.render.transcript).render.transcript,
    fun q hserved hroom => ?_⟩
  simp only [start, order, render, withErrands, ErrandQueue.send_of_room hserved hroom]
  rfl

def waiting (policy : FailurePolicy) (capacity : Nat) (plan : Plan) (id : String) : Runner :=
  { new policy capacity plan with
    viewer := ((Viewer.new policy).select id).2
    errands := ⟨[.load ((Viewer.new policy).select id).1 id], capacity, true⟩ }

theorem start_new (policy : FailurePolicy) (plan : Plan) (id : String) :
    ∃ lines, ∀ capacity, 0 < capacity →
      (new policy capacity plan).start id = (.ok (), (waiting policy capacity plan id).telling lines) := by
  obtain ⟨lines, hstart⟩ := start_of_room (new policy 0 plan) id
  exact ⟨lines, fun capacity hroom => hstart ⟨[], capacity, true⟩ rfl hroom⟩

theorem run_of_room (policy : FailurePolicy) (plan : Plan) (id : String) :
    ∃ lines, ∀ capacity, 0 < capacity → ∀ reports, (new policy capacity plan).run id reports =
      ((waiting policy capacity plan id).telling lines).follow reports := by
  obtain ⟨lines, hstart⟩ := start_new policy plan id
  exact ⟨lines, fun capacity hroom reports => by rw [run, hstart capacity hroom]⟩

theorem settle_of_pending {r : Runner} (h : r.pending ≠ 0) : r.settle = (none, r) := by
  simp [settle, h]

theorem settle_of_settled {r : Runner} (h : r.pending = 0) :
    r.settle = (some r.finish.1, r.finish.2) := by
  simp [settle, h]

/-- A form that is awaited is shown and copied, and the run goes on to the firings of the plan. -/
theorem take_loaded_eq {r : Runner} {t : Ticket} (ht : r.viewer.awaits t = true) (form : Form) :
    ∃ lines, ∀ q, (r.withErrands q).take (.loaded t form) =
      match (((r.withErrands q).opened form).telling lines).fireAll (firings form r.plan.triggers) with
      | (.error e, r) => (some (.error e), r)
      | (.ok (), r) => r.settle := by
  refine ⟨(r.opened form).render.transcript ++ idleLines form r.plan.triggers, fun q => ?_⟩
  have hcomplete : (r.withErrands q).viewer.complete t form = (true, r.viewer.apply (.loaded form)) :=
    Viewer.complete_of_awaits ht form
  rw [take, hcomplete]
  rfl

theorem take_loaded {r : Runner} {t : Ticket} (ht : r.viewer.awaits t = true) (form : Form) :
    ∃ lines, ∀ q : ErrandQueue, q.served = true →
      (q.waiting.length + (firings form r.plan.triggers).length ≤ q.capacity →
        (r.withErrands q).take (.loaded t form) =
          ((((r.withErrands q).opened form).fired (firings form r.plan.triggers)).telling lines).settle) ∧
      (q.waiting.length ≤ q.capacity →
        q.capacity < q.waiting.length + (firings form r.plan.triggers).length →
        (r.withErrands q).take (.loaded t form) = (some (.error (.queueFull "fire_trigger")),
          (((r.withErrands q).opened form).fired ((firings form r.plan.triggers).take
            (q.capacity - q.waiting.length))).telling lines)) := by
  obtain ⟨lines, htake⟩ := take_loaded_eq ht form
  refine ⟨lines, fun q hserved => ⟨fun hroom => ?_, fun hwaiting hfull => ?_⟩⟩
  · have hfire := @fireAll_of_room (((r.withErrands q).opened form).telling lines)
      (firings form r.plan.triggers) hserved hroom
    rw [htake, hfire]
    rfl
  · have hfire := @fireAll_of_full (((r.withErrands q).opened form).telling lines)
      (firings form r.plan.triggers) hserved hwaiting hfull
    rw [htake, hfire]
    rfl

theorem absorb_eq (r : Runner) (field : String) (o : Outcome) :
    ∃ lines, r.absorb field o =
      { r with working := r.working.map (·.taking o), transcript := lines } := by
  cases hw : r.working with
  | none =>
    refine ⟨r.transcript, ?_⟩
    have habsorb : r.absorb field o = r := by simp only [absorb, hw]
    rw [habsorb, Option.map_none, ← hw]
  | some form =>
    have hform := form.absorb_snd o
    rcases h : form.absorb o with ⟨e | held, g⟩
    · rw [h] at hform
      refine ⟨(r.say (field ++ ": outcome not applied: " ++ e.message)).transcript, ?_⟩
      simp only [absorb, hw, h, Option.map_some, ← hform]
      rfl
    · rw [h] at hform
      refine ⟨r.transcript, ?_⟩
      simp only [absorb, hw, h, Option.map_some, ← hform]

theorem take_answer {a : Report} (ha : a.isAnswer = true) (r : Runner) :
    ∃ lines, r.take a = ((r.heard [a]).telling lines).settle := by
  cases a with
  | resolved field o =>
    obtain ⟨lines, habsorb⟩ := (r.say (field ++ ": " ++ o.annotated)).absorb_eq field o
    refine ⟨lines, ?_⟩
    rw [take, habsorb]
    rfl
  | failed field e =>
    have hworking : (r.heard [.failed field e]).working = r.working := by
      cases hw : r.working <;> rw [heard, hw] <;> rfl
    refine ⟨(r.say (e.advice field)).transcript, ?_⟩
    rw [take, telling, hworking]
    rfl
  | note message => simp [Report.isAnswer] at ha
  | stopped reason => simp [Report.isAnswer] at ha
  | loaded t form => simp [Report.isAnswer] at ha
  | loadFailed t e => simp [Report.isAnswer] at ha

theorem follow_of_settle {r r' : Runner} {a : Report} (h : r.take a = r'.settle)
    (rest : List Report) :
    r.follow (a :: rest) =
      if r'.pending = 0 then (r'.finish.1, rest, r'.finish.2) else r'.follow rest := by
  rw [follow, h]
  by_cases hpending : r'.pending = 0
  · rw [settle_of_settled hpending, if_pos hpending]
  · rw [settle_of_pending hpending, if_neg hpending]

theorem take_idle {r : Runner} {a : Report} (ha : a.isIdle r.viewer = true) :
    r.take a = (none, r) := by
  cases a with
  | note message => rfl
  | loaded t form =>
    have ht : r.viewer.awaits t = false := by simpa [Report.isIdle] using ha
    simp only [take, Viewer.complete_of_not_awaits ht]
  | loadFailed t e =>
    have ht : r.viewer.awaits t = false := by simpa [Report.isIdle] using ha
    simp only [take, Viewer.fail_of_not_awaits ht]
  | stopped reason => simp [Report.isIdle] at ha
  | resolved field o => simp [Report.isIdle] at ha
  | failed field e => simp [Report.isIdle] at ha

theorem follow_idle {r : Runner} {a : Report} (ha : a.isIdle r.viewer = true) (rest : List Report) :
    r.follow (a :: rest) = r.follow rest := by
  rw [follow, take_idle ha]

theorem follow_idles {r : Runner} {front : List Report} (hfront : ∀ a ∈ front, a.isIdle r.viewer = true)
    (back : List Report) : r.follow (front ++ back) = r.follow back := by
  induction front with
  | nil => rfl
  | cons a front ih =>
    rw [List.forall_mem_cons] at hfront
    rw [List.cons_append, follow_idle hfront.1, ih hfront.2]

/-- Reports that leave firings open change nothing but the copy. -/
theorem follow_open {r : Runner} {front : List Report}
    (hfront : ∀ a ∈ front, a.isAnswer = true ∨ a.isIdle r.viewer = true)
    (hopen : front.countP Report.isAnswer < r.pending) :
    ∃ lines, ∀ back, r.follow (front ++ back) =
      ((r.heard (front.filter Report.isAnswer)).telling lines).follow back := by
  induction front generalizing r with
  | nil => exact ⟨r.transcript, fun back => by rw [List.filter_nil, heard_nil]; rfl⟩
  | cons a front ih =>
    rw [List.forall_mem_cons] at hfront
    cases ha : a.isAnswer with
    | true =>
      rw [List.countP_cons_of_pos ha] at hopen
      obtain ⟨lines, htake⟩ := take_answer ha r
      have hpending : ((r.heard [a]).telling lines).pending = r.pending - 1 := rfl
      obtain ⟨lines', hrest⟩ := @ih ((r.heard [a]).telling lines) hfront.2 (by omega)
      have hheard : r.heard (a :: front.filter Report.isAnswer) =
          (r.heard [a]).heard (front.filter Report.isAnswer) := heard_append r [a] _
      refine ⟨lines', fun back => ?_⟩
      rw [List.cons_append, follow_of_settle htake, if_neg (by omega), hrest back,
        List.filter_cons_of_pos ha, hheard]
      rfl
    | false =>
      have hneg : ¬ a.isAnswer = true := by rw [ha]; decide
      rw [List.countP_cons_of_neg hneg] at hopen
      obtain ⟨lines, hrest⟩ := ih hfront.2 hopen
      have hidle : a.isIdle r.viewer = true := hfront.1.resolve_left hneg
      refine ⟨lines, fun back => ?_⟩
      rw [List.cons_append, follow_idle hidle, hrest back, List.filter_cons_of_neg hneg]

theorem follow_last {r : Runner} {front : List Report} {a : Report}
    (hfront : ∀ a ∈ front, a.isAnswer = true ∨ a.isIdle r.viewer = true) (ha : a.isAnswer = true)
    (hlast : front.countP Report.isAnswer + 1 = r.pending) :
    ∃ lines, ∀ rest, r.follow (front ++ a :: rest) =
      (((r.heard ((front ++ [a]).filter Report.isAnswer)).telling lines).finish.1, rest,
        ((r.heard ((front ++ [a]).filter Report.isAnswer)).telling lines).finish.2) := by
  obtain ⟨lines, hopen⟩ := @follow_open r front hfront (by omega)
  obtain ⟨lines', htake⟩ := take_answer ha ((r.heard (front.filter Report.isAnswer)).telling lines)
  have hpending : ((((r.heard (front.filter Report.isAnswer)).telling lines).heard [a]).telling
      lines').pending = 0 := by
    have hcount : r.pending - (front.filter Report.isAnswer).length - 1 = 0 := by
      rw [← List.countP_eq_length_filter]
      omega
    exact hcount
  have hfilter : (front ++ [a]).filter Report.isAnswer = front.filter Report.isAnswer ++ [a] := by
    rw [List.filter_append, List.filter_cons_of_pos ha, List.filter_nil]
  refine ⟨lines', fun rest => ?_⟩
  rw [hopen, follow_of_settle htake, if_pos hpending, hfilter, heard_append]
  rfl

theorem follow_answers {r : Runner} {front : List Report}
    (hanswers : ∀ a ∈ front, a.isAnswer = true) (hopen : front.length < r.pending) :
    ∃ lines, ∀ back, r.follow (front ++ back) = ((r.heard front).telling lines).follow back := by
  have hcount : front.countP Report.isAnswer = front.length := List.countP_eq_length.mpr hanswers
  obtain ⟨lines, hfront⟩ := @follow_open r front (fun a ha => Or.inl (hanswers a ha)) (by omega)
  rw [List.filter_eq_self.mpr hanswers] at hfront
  exact ⟨lines, hfront⟩

end Runner
end ComponentForm

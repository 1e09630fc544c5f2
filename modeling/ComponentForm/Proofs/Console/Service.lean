import ComponentForm.Console.Program
import ComponentForm.Proofs.Console.Accounting

/-! Runs with a worker. The worker empties the queue while the run goes on, but the only errand that it
can have taken before the firings are sent is the one that loads. A run with a worker is therefore
the run on what the worker reports, with a queue that has one place more and is never emptied. -/
namespace ComponentForm

namespace Worker

/-- What comes of errands that are served one after the other: the request that was sent for each, if
any, and the report on it. -/
def serveAll (net : Nat → Network) : Nat → Worker → List Errand → List (Option Request × Report)
  | _, _, [] => []
  | n, w, errand :: rest =>
    let (request, report, w) := w.serve (net n) errand
    (request, report) :: serveAll net (n + 1) w rest

theorem length_serveAll (net : Nat → Network) (n : Nat) (w : Worker) (errands : List Errand) :
    (w.serveAll net n errands).length = errands.length := by
  induction errands generalizing n w with
  | nil => rfl
  | cons errand rest ih => rw [serveAll, List.length_cons, List.length_cons, ih]

theorem isAnswer_serve_fire (net : Network) (w : Worker) (f : Firing) :
    (w.serve net (.fire f)).2.1.isAnswer = true := by
  rw [serve]
  dsimp only
  cases (w.actions.fire net f).result <;> rfl

theorem serve_load (net : Network) (w : Worker) (t : Ticket) (id : String) :
    (∃ form, (w.serve net (.load t id)).2.1 = .loaded t form) ∨
      ∃ e, (w.serve net (.load t id)).2.1 = .loadFailed t e := by
  rw [serve]
  dsimp only
  cases (w.catalog.fetch net id).1.result with
  | ok form => exact .inl ⟨form, rfl⟩
  | error e => exact .inr ⟨e, rfl⟩

theorem isAnswer_of_mem_serveAll {net : Nat → Network} {n : Nat} {w : Worker} {fs : List Firing}
    {a : Report} (h : a ∈ (w.serveAll net n (fs.map .fire)).map Prod.snd) : a.isAnswer = true := by
  induction fs generalizing n w with
  | nil => cases h
  | cons f fs ih =>
    rw [List.map_cons, serveAll, List.map_cons, List.mem_cons] at h
    rcases h with rfl | h
    · exact isAnswer_serve_fire (net n) w f
    · exact ih h

end Worker

namespace Runner

theorem settle_withErrands (r : Runner) (q : ErrandQueue) :
    (r.withErrands q).settle = (r.settle.1, r.settle.2.withErrands q) := by
  have hpending : (r.withErrands q).pending = r.pending := rfl
  by_cases h : r.pending = 0
  · rw [settle_of_settled h, settle_of_settled (hpending.trans h), finish_withErrands]
  · rw [settle_of_pending h, settle_of_pending (hpending ▸ h)]

theorem absorb_withErrands (r : Runner) (q : ErrandQueue) (field : String) (o : Outcome) :
    (r.withErrands q).absorb field o = (r.absorb field o).withErrands q := by
  obtain ⟨viewer, changes, errands, working, pending, plan, lines⟩ := r
  cases working with
  | none => rfl
  | some form =>
    simp only [absorb, withErrands]
    rcases form.absorb o with ⟨e | held, g⟩
    · rfl
    · rfl

theorem take_withErrands {a : Report} (ha : a.isAnswer = true) (r : Runner) (q : ErrandQueue) :
    (r.withErrands q).take a = ((r.take a).1, (r.take a).2.withErrands q) := by
  cases a with
  | resolved field o =>
    let taken := (r.say (field ++ ": " ++ o.annotated)).absorb field o
    have habsorb : ((r.withErrands q).say (field ++ ": " ++ o.annotated)).absorb field o =
        taken.withErrands q := absorb_withErrands (r.say (field ++ ": " ++ o.annotated)) q field o
    rw [take, habsorb]
    exact settle_withErrands { taken with pending := taken.pending - 1 } q
  | failed field e => exact settle_withErrands { r.say (e.advice field) with pending := r.pending - 1 } q
  | note message => simp [Report.isAnswer] at ha
  | stopped reason => simp [Report.isAnswer] at ha
  | loaded t form => simp [Report.isAnswer] at ha
  | loadFailed t e => simp [Report.isAnswer] at ha

theorem follow_withErrands {answers : List Report} (hanswers : ∀ a ∈ answers, a.isAnswer = true)
    (r : Runner) (q : ErrandQueue) :
    (r.withErrands q).follow answers =
      ((r.follow answers).1, (r.follow answers).2.1, (r.follow answers).2.2.withErrands q) := by
  induction answers generalizing r with
  | nil => rfl
  | cons a answers ih =>
    rw [List.forall_mem_cons] at hanswers
    rw [follow, follow, take_withErrands hanswers.1]
    rcases r.take a with ⟨_ | result, r'⟩
    · exact ih hanswers.2 r'
    · rfl

theorem suffix_follow (r : Runner) (reports : List Report) : (r.follow reports).2.1 <:+ reports := by
  induction reports generalizing r with
  | nil => exact List.suffix_refl _
  | cons a reports ih =>
    rw [follow]
    rcases r.take a with ⟨_ | result, r'⟩
    · exact (ih r').trans (List.suffix_cons a reports)
    · exact List.suffix_cons a reports

theorem takeErrands_withErrands (r : Runner) (waiting : List Errand) (capacity : Nat) (served : Bool) :
    (r.withErrands ⟨waiting, capacity, served⟩).takeErrands =
      (waiting, r.withErrands ⟨[], capacity, served⟩) :=
  rfl

section Worker
variable {net : Nat → Network} {fuel n capacity : Nat} {served : Bool} {sent : List Request} {r : Runner}
  {w : Worker}

theorem followWorker_of_errand {errands waiting rest : List Errand} {errand : Errand}
    (h : errands ++ waiting = errand :: rest) :
    followWorker net (fuel + 1) n sent (r.withErrands ⟨waiting, capacity, served⟩) w errands =
      match (r.withErrands ⟨[], capacity, served⟩).take (w.serve (net n) errand).2.1 with
      | (some result, r) => ⟨result, sent ++ (w.serve (net n) errand).1.toList, r⟩
      | (none, r) => followWorker net fuel (n + 1) (sent ++ (w.serve (net n) errand).1.toList) r
          (w.serve (net n) errand).2.2 rest := by
  rw [followWorker, takeErrands_withErrands]
  dsimp only
  generalize errands ++ waiting = all at h ⊢
  subst h
  rfl

/-- Where only firings are left, a run with a worker goes on as the run on what the worker reports. -/
theorem followWorker_fires {fs : List Firing} {services : List (Option Request × Report)}
    {outcome : Except RunError Unit × List Report × Runner} (hfuel : fs.length < fuel)
    (hservices : w.serveAll net n (fs.map .fire) = services)
    (houtcome : r.follow (services.map Prod.snd) = outcome) :
    followWorker net fuel n sent (r.withErrands ⟨[], capacity, served⟩) w (fs.map .fire) =
      ⟨outcome.1, sent ++ (services.take (fs.length - outcome.2.1.length)).flatMap (·.1.toList),
        outcome.2.2.withErrands ⟨[], capacity, served⟩⟩ := by
  subst hservices houtcome
  induction fs generalizing fuel n sent r w with
  | nil =>
    obtain ⟨fuel, rfl⟩ := Nat.exists_eq_succ_of_ne_zero (Nat.ne_of_gt hfuel)
    rw [List.length_nil, Nat.zero_sub, List.take_zero, List.flatMap_nil, List.append_nil]
    rfl
  | cons f fs ih =>
    obtain ⟨fuel, rfl⟩ := Nat.exists_eq_succ_of_ne_zero (Nat.ne_zero_of_lt hfuel)
    have hrest : fs.length < fuel := Nat.lt_of_succ_lt_succ hfuel
    rcases hserve : w.serve (net n) (.fire f) with ⟨request, a, w'⟩
    have ha : a.isAnswer = true := by
      have hanswer := Worker.isAnswer_serve_fire (net n) w f
      rwa [hserve] at hanswer
    rw [List.map_cons, followWorker_of_errand (List.append_nil _), hserve, take_withErrands ha]
    simp only [Worker.serveAll, hserve, List.map_cons, follow]
    rcases r.take a with ⟨_ | result, r'⟩
    · have hlength : (r'.follow ((w'.serveAll net (n + 1) (fs.map .fire)).map Prod.snd)).2.1.length ≤
          fs.length := by
        have hsuffix := (suffix_follow r' ((w'.serveAll net (n + 1) (fs.map .fire)).map Prod.snd)).length_le
        rwa [List.length_map, Worker.length_serveAll, List.length_map] at hsuffix
      simp only [ih hrest, List.length_cons, Nat.succ_sub hlength, List.take_succ_cons, List.flatMap_cons,
        List.append_assoc]
    · simp [Worker.length_serveAll]

theorem followWorker_of_waiting (waiting : List Errand) :
    followWorker net (fuel + 1) n sent (r.withErrands ⟨waiting, capacity, served⟩) w [] =
      followWorker net (fuel + 1) n sent (r.withErrands ⟨[], capacity, served⟩) w waiting := by
  simp only [followWorker, takeErrands_withErrands, List.nil_append, List.append_nil]

/-- With the same room before them, the firings find place behind any errands. -/
theorem take_of_load {t : Ticket} (ht : r.viewer.awaits t = true) {a : Report}
    (ha : (∃ form, a = .loaded t form) ∨ ∃ e, a = .loadFailed t e) (capacity : Nat) :
    ∃ (result : Option (Except RunError Unit)) (r' : Runner) (fs : List Firing), fs.length ≤ capacity ∧
      ∀ waiting : List Errand, (r.withErrands ⟨waiting, capacity + waiting.length, true⟩).take a =
        (result, r'.withErrands ⟨waiting ++ fs.map .fire, capacity + waiting.length, true⟩) := by
  rcases ha with ⟨form, rfl⟩ | ⟨e, rfl⟩
  · obtain ⟨lines, htake⟩ := take_loaded ht form
    by_cases hroom : (firings form r.plan.triggers).length ≤ capacity
    · let opened := ((r.opened form).fired (firings form r.plan.triggers)).telling lines
      refine ⟨opened.settle.1, opened.settle.2, firings form r.plan.triggers, hroom, fun waiting => ?_⟩
      have hplace : waiting.length + (firings form r.plan.triggers).length ≤ capacity + waiting.length := by
        omega
      rw [(htake ⟨waiting, capacity + waiting.length, true⟩ rfl).1 hplace]
      exact settle_withErrands opened _
    · refine ⟨some (.error (.queueFull "fire_trigger")),
        ((r.opened form).fired ((firings form r.plan.triggers).take capacity)).telling lines,
        (firings form r.plan.triggers).take capacity, List.length_take_le _ _, fun waiting => ?_⟩
      have hfull : capacity + waiting.length < waiting.length + (firings form r.plan.triggers).length := by
        omega
      rw [(htake ⟨waiting, capacity + waiting.length, true⟩ rfl).2 (Nat.le_add_left _ _) hfull,
        Nat.add_sub_cancel]
      rfl
  · refine ⟨some (.error (.loadFailed e)), (r.take (.loadFailed t e)).2, [], Nat.zero_le _,
      fun waiting => ?_⟩
    simp only [take, withErrands, Viewer.fail_of_awaits ht, List.map_nil, List.append_nil]
    rfl

/-- A run that waits for its load goes on with a worker as it does on what the worker reports. -/
theorem followWorker_load {t : Ticket} (ht : r.viewer.awaits t = true) (hfuel : capacity < fuel)
    (id : String) :
    ∃ errands q,
      let services := w.serveAll net n errands
      let outcome := (r.withErrands ⟨[.load t id], capacity + 1, true⟩).follow (services.map Prod.snd)
      outcome.2.2.errands.waiting = errands ∧
      followWorker net (fuel + 1) n sent (r.withErrands ⟨[.load t id], capacity, true⟩) w [] =
        ⟨outcome.1, sent ++ (services.take (errands.length - outcome.2.1.length)).flatMap (·.1.toList),
          outcome.2.2.withErrands q⟩ := by
  rcases hserve : w.serve (net n) (.load t id) with ⟨request, a, w'⟩
  have ha := Worker.serve_load (net n) w t id
  rw [hserve] at ha
  obtain ⟨result, r', fs, hfs, htake⟩ := take_of_load ht ha capacity
  have htaken : (r.withErrands ⟨[], capacity, true⟩).take a =
      (result, r'.withErrands ⟨fs.map .fire, capacity, true⟩) := htake []
  have hbehind : (r.withErrands ⟨[.load t id], capacity + 1, true⟩).take a =
      (result, r'.withErrands ⟨.load t id :: fs.map .fire, capacity + 1, true⟩) := htake [.load t id]
  obtain ⟨services, hanswers⟩ : ∃ services, w'.serveAll net (n + 1) (fs.map .fire) = services := ⟨_, rfl⟩
  have hservices : w.serveAll net n (.load t id :: fs.map .fire) = (request, a) :: services := by
    rw [Worker.serveAll, hserve, ← hanswers]
  have hlength : services.length = fs.length := by
    rw [← hanswers, Worker.length_serveAll, List.length_map]
  refine ⟨.load t id :: fs.map .fire, ?_⟩
  rw [followWorker_of_errand (List.nil_append [.load t id]), hserve, htaken, hservices]
  simp only [List.map_cons, follow, hbehind, List.length_cons, List.length_map]
  cases result with
  | some result =>
    refine ⟨⟨fs.map .fire, capacity, true⟩, rfl, ?_⟩
    simp only [List.length_map, hlength, Nat.add_sub_cancel_left, List.take_succ_cons, List.take_zero,
      List.flatMap_cons, List.flatMap_nil, List.append_nil]
    rfl
  | none =>
    obtain ⟨rest, hrest⟩ : ∃ rest, r'.follow (services.map Prod.snd) = rest := ⟨_, rfl⟩
    have hleft : rest.2.1.length ≤ fs.length := by
      rw [← hlength, ← List.length_map Prod.snd, ← hrest]
      exact (suffix_follow r' (services.map Prod.snd)).length_le
    have hbare : (r'.withErrands ⟨.load t id :: fs.map .fire, capacity + 1, true⟩).follow
        (services.map Prod.snd) = (rest.1, rest.2.1,
          rest.2.2.withErrands ⟨.load t id :: fs.map .fire, capacity + 1, true⟩) := by
      rw [← hrest, ← hanswers]
      exact follow_withErrands (fun _ => Worker.isAnswer_of_mem_serveAll) r' _
    obtain ⟨fuel, rfl⟩ := Nat.exists_eq_succ_of_ne_zero (Nat.ne_zero_of_lt hfuel)
    refine ⟨⟨[], capacity, true⟩, ?_⟩
    simp only [hbare, Nat.succ_sub hleft, List.take_succ_cons, List.flatMap_cons, ← List.append_assoc]
    exact ⟨rfl, (followWorker_of_waiting (fs.map .fire)).trans
      (followWorker_fires (Nat.lt_of_le_of_lt hfs hfuel) hanswers hrest)⟩

end Worker

/-- A run with a worker is the run on what the worker reports on the errands of that run, in their order;
the requests are those of the errands whose reports the run takes. -/
theorem runWith_eq_run (net : Nat → Network) (policy : FailurePolicy) {capacity : Nat}
    (hcapacity : 0 < capacity) (plan : Plan) (w : Worker) (id : String) :
    ∃ errands q,
      let services := w.serveAll net 0 errands
      let outcome := (new policy (capacity + 1) plan).run id (Worker.ready :: services.map Prod.snd)
      outcome.2.2.errands.waiting = errands ∧
      (new policy capacity plan).runWith net w id =
        ⟨outcome.1, (services.take (errands.length - outcome.2.1.length)).flatMap (·.1.toList),
          outcome.2.2.withErrands q⟩ := by
  obtain ⟨lines, hstart⟩ := start_new policy plan id
  let r : Runner := (waiting policy 0 plan id).telling lines
  let t : Ticket := ((Viewer.new policy).select id).1
  have hawaited : r.viewer.awaits t = true := (Viewer.awaits_select _ id _).mpr rfl
  have hrunWith : (new policy capacity plan).runWith net w id =
      followWorker net (capacity + 2) 0 [] (r.withErrands ⟨[.load t id], capacity, true⟩) w [] := by
    rw [runWith, hstart capacity hcapacity]
    rfl
  have hrun : ∀ reports, (new policy (capacity + 1) plan).run id (Worker.ready :: reports) =
      (r.withErrands ⟨[.load t id], capacity + 1, true⟩).follow reports := by
    intro reports
    rw [run, hstart (capacity + 1) (Nat.succ_pos capacity)]
    rfl
  simp only [hrunWith, hrun]
  exact followWorker_load hawaited (Nat.lt_succ_self capacity) id

end Runner

/-- A command line that has been prepared for shows the transcript of such a run, sends its requests, and
ends well if the run does. -/
theorem Program.runCommand_eq_run (net : Nat → Network) (d : Directory) (env : String → Option String)
    {c : CommandLine} {plan : Plan} {w : Worker} (h : prepare d (settings d env c) c = .ok (plan, w)) :
    ∃ errands,
      let services := w.serveAll net 0 errands
      let outcome := (Runner.new (settings d env c).policy (queueDepth + 1) plan).run c.component
        (Worker.ready :: services.map Prod.snd)
      outcome.2.2.errands.waiting = errands ∧
      (runCommand net d env c).out = linesText outcome.2.2.transcript ∧
      (runCommand net d env c).sent =
        (services.take (errands.length - outcome.2.1.length)).flatMap (·.1.toList) ∧
      ((runCommand net d env c).exit = 0 ↔ outcome.1 = .ok ()) := by
  have hdepth : 0 < queueDepth := by decide
  obtain ⟨errands, q, hwaiting, hcourse⟩ :=
    Runner.runWith_eq_run net (settings d env c).policy hdepth plan w c.component
  refine ⟨errands, hwaiting, ?_⟩
  simp only [runCommand, h, hcourse]
  split
  · next hok => exact ⟨rfl, rfl, iff_of_true rfl hok⟩
  · next e herror =>
    refine ⟨rfl, rfl, iff_of_false Nat.one_ne_zero fun hok => ?_⟩
    rw [herror] at hok
    cases hok

end ComponentForm

import ComponentForm.Proofs.Console.Commitment

/-! Accounts of a run. Every trigger that the plan names is fired once, and the run is over with the
answer to the last of them: not earlier, whatever else is reported in between, and not later. -/
namespace ComponentForm
namespace Runner

theorem finish_withErrands (r : Runner) (q : ErrandQueue) :
    (r.withErrands q).finish = (r.finish.1, r.finish.2.withErrands q) := by
  obtain ⟨viewer, changes, errands, working, pending, ⟨triggers, submit, values, reopen⟩, lines⟩ := r
  simp only [finish, withErrands, submission?, drain, render]
  cases submit with
  | false => rfl
  | true =>
    cases values.or (working.map Form.values) with
    | none => rfl
    | some v =>
      dsimp only
      rcases changes.submit v with ⟨e | ⟨⟩, sent⟩
      · rfl
      · dsimp only
        cases reopen with
        | false => rfl
        | true =>
          rcases (viewer.drain sent).2.2.reopen with ⟨e | ⟨⟩, reopened⟩
          · rfl
          · rfl

namespace Uncommitted

variable {plan : Plan} {loaded copy : Form} {remaining : Nat} {r : Runner}

end Uncommitted

end Runner
end ComponentForm

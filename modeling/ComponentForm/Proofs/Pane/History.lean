import ComponentForm.Pane.Viewer
import ComponentForm.Proofs.Since

/-! Histories of a viewer. A viewer is called in any order; every call and its answer is noted, and
what holds at the start and survives one call holds of the viewer after every list of calls. The
word of all statements about the past is `Since`: an entry of some kind, and nothing of another
kind after it. -/
namespace ComponentForm

namespace Viewer

/-- What can be asked of a viewer and of the queue its form sends changes to. -/
inductive Call
  | select (id : String)
  | complete (ticket : Ticket) (form : Form)
  | fail (ticket : Ticket) (error : LoadError)
  | clear
  | apply (change : Change)
  | submit (values : Document)
  | reopen
  | drain

inductive Event
  | selected (id : String) (ticket : Ticket)
  | completed (ticket : Ticket) (form : Form) (taken : Bool)
  | failed (ticket : Ticket) (error : LoadError) (taken : Bool)
  | cleared
  | applied (change : Change)
  | queued (change : Change)
  | drained (count : Nat)

structure History where
  log : List Event
  viewer : Viewer
  queue : ChangeQueue

namespace History

def start (policy : FailurePolicy) : History :=
  ⟨[], .new policy, .new⟩

def step (h : History) : Call → History
  | .select id =>
    let (t, viewer) := h.viewer.select id
    ⟨h.log ++ [.selected id t], viewer, h.queue⟩
  | .complete t f =>
    let (taken, viewer) := h.viewer.complete t f
    ⟨h.log ++ [.completed t f taken], viewer, h.queue⟩
  | .fail t e =>
    let (taken, viewer) := h.viewer.fail t
    ⟨h.log ++ [.failed t e taken], viewer, h.queue⟩
  | .clear => ⟨h.log ++ [.cleared], h.viewer.clear, h.queue⟩
  | .apply c => ⟨h.log ++ [.applied c], h.viewer.apply c, h.queue⟩
  | .submit values => ⟨h.log ++ [.queued (.submitted values)], h.viewer, (h.queue.submit values).2⟩
  | .reopen => ⟨h.log ++ [.queued .reopened], h.viewer, h.queue.reopen.2⟩
  | .drain =>
    let (n, viewer, queue) := h.viewer.drain h.queue
    ⟨h.log ++ [.drained n], viewer, queue⟩

def run (h : History) (calls : List Call) : History :=
  calls.foldl step h

@[simp] theorem run_nil (h : History) : h.run [] = h := rfl

@[simp] theorem run_cons (h : History) (c : Call) (calls : List Call) :
    h.run (c :: calls) = (h.step c).run calls := rfl

/-- What every allowed call preserves, every run of allowed calls preserves. -/
theorem run_invariant {I : History → Prop} {allowed : Call → Prop}
    (hstep : ∀ h c, allowed c → I h → I (h.step c)) {h : History} {calls : List Call}
    (hcalls : ∀ c ∈ calls, allowed c) (h₀ : I h) : I (h.run calls) := by
  induction calls generalizing h with
  | nil =>
    rw [run_nil]
    exact h₀
  | cons c calls ih =>
    rw [List.forall_mem_cons] at hcalls
    rw [run_cons]
    exact ih hcalls.2 (hstep h c hcalls.1 h₀)

end History

/-- Whether the call left the viewer without a selection. -/
def Event.drops (policy : FailurePolicy) : Event → Bool
  | .cleared => true
  | .failed _ _ taken => taken && policy = .resetSelection
  | _ => false

end Viewer
end ComponentForm

import ComponentForm.Console.Runner
import ComponentForm.Server.Actions
import ComponentForm.Server.Catalog

/-! The worker that runs errands: it fetches forms from a catalog and puts firings to an action
server. -/
namespace ComponentForm

structure Worker where
  catalog : Catalog
  actions : ActionServer

namespace Worker

def ready : Report := .note "Backend worker ready"

def serve (net : Network) (w : Worker) : Errand → Option Request × Report × Worker
  | .load t id =>
    let (fetched, catalog) := w.catalog.fetch net id
    let report := match fetched.result with
      | .ok form => .loaded t form
      | .error e => .loadFailed t e
    (fetched.sent, report, { w with catalog })
  | .fire f =>
    let fired := w.actions.fire net f
    let report := match fired.result with
      | .ok o => .resolved f.field o
      | .error e => .failed f.field e
    (fired.sent, report, w)

end Worker

namespace Runner

def takeErrands (r : Runner) : List Errand × Runner :=
  (r.errands.waiting, { r with errands := { r.errands with waiting := [] } })

/-- What came of a run with a worker: its result, and the requests that were sent. -/
structure Course where
  result : Except RunError Unit
  sent : List Request
  runner : Runner

/-- Goes on with a worker that serves one errand at a time, in the order in which they were given;
`net n` is the network as the n-th errand finds it. Ends with the run, or unsettled when no errand
is left; `fuel` bounds the errands. -/
def followWorker (net : Nat → Network) :
    (fuel n : Nat) → List Request → Runner → Worker → List Errand → Course
  | 0, _, sent, r, _, _ => ⟨.error .unsettled, sent, r⟩
  | fuel + 1, n, sent, r, w, errands =>
    let (new, r) := r.takeErrands
    match errands ++ new with
    | [] => ⟨.error .unsettled, sent, r⟩
    | errand :: rest =>
      let (request, report, w) := w.serve (net n) errand
      let sent := sent ++ request.toList
      match r.take report with
      | (some result, r) => ⟨result, sent, r⟩
      | (none, r) => followWorker net fuel (n + 1) sent r w rest

/-- A whole run with a worker of its own. The plan fires at most as many triggers as the queue
holds, so there is at most one errand more than its capacity. -/
def runWith (net : Nat → Network) (r : Runner) (w : Worker) (id : String) : Course :=
  match r.start id with
  | (.error e, r) => ⟨.error e, [], r⟩
  | (.ok (), r) =>
    match r.take Worker.ready with
    | (some result, r) => ⟨result, [], r⟩
    | (none, r) => followWorker net (r.errands.capacity + 2) 0 [] r w []

end Runner
end ComponentForm

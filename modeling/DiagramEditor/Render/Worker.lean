import DiagramEditor.Render.Queue

/-! The render worker runs beside its owner and takes one step at a time: it takes a
job, replaces it by every newer job that is waiting, renders the one it then holds,
and sends the result. The owner may submit jobs and receive results between any two
of these steps. A worker that has no job waits for one; it never stops by itself. -/
namespace DiagramEditor

structure RenderJob where
  ticket : RenderTicket
  source : Text
deriving DecidableEq, Repr

structure RenderResult where
  ticket : RenderTicket
  result : Except RenderError Text

/-- What the worker is at between two steps. -/
inductive WorkerStage where
  | idle
  | holding (job : RenderJob)
  | rendering (job : RenderJob)
  | sending (result : RenderResult)

/-- Bounds the steps from a stage to the next one at which the worker rests. -/
def WorkerStage.stepsToRest : WorkerStage → Nat
  | idle | rendering _ => 0
  | holding _ | sending _ => 1

/-- The worker with its two channels, each with the oldest entry first. -/
structure RenderWorker where
  jobs : List RenderJob := []
  stage : WorkerStage := .idle
  results : List RenderResult := []

instance : Inhabited RenderWorker := ⟨{}⟩

namespace RenderWorker

/-- A worker runs for as long as its owner holds it. -/
def isRunning (_ : RenderWorker) : Bool := true

/-- Puts a job behind the waiting ones. -/
def submit (worker : RenderWorker) (job : RenderJob) : RenderWorker :=
  { worker with jobs := worker.jobs ++ [job] }

/-- Takes the oldest result, if there is one. -/
def receive? (worker : RenderWorker) : Option (RenderResult × RenderWorker) :=
  match worker.results with
  | [] => none
  | result :: more => some (result, { worker with results := more })

/-- The worker's next step; none while it waits for a job. -/
def step? (render : Renderer) (worker : RenderWorker) : Option RenderWorker :=
  match worker.stage, worker.jobs with
  | .idle, [] => none
  | .idle, job :: more => some { worker with stage := .holding job, jobs := more }
  | .holding _, newer :: more => some { worker with stage := .holding newer, jobs := more }
  | .holding job, [] => some { worker with stage := .rendering job }
  | .rendering job, _ =>
    some { worker with stage := .sending ⟨job.ticket, render job.source⟩ }
  | .sending result, _ =>
    some { worker with stage := .idle, results := worker.results ++ [result] }

/-- The job that is being rendered. -/
def inFlight? (worker : RenderWorker) : Option RenderJob :=
  match worker.stage with
  | .rendering job => some job
  | _ => none

/-- Bounds the steps that are left until the worker waits or renders. -/
def stepsToRest (worker : RenderWorker) : Nat :=
  2 * worker.jobs.length + worker.stage.stepsToRest

theorem stepsToRest_step {render : Renderer} {worker behind : RenderWorker}
    (step : worker.step? render = some behind) (resting : worker.inFlight? = none) :
    behind.stepsToRest < worker.stepsToRest := by
  unfold step? at step
  unfold inFlight? at resting
  split at step <;>
    simp_all only [reduceCtorEq, Option.some.injEq] <;>
    subst step <;>
    simp_all only [stepsToRest, WorkerStage.stepsToRest, List.length_cons] <;>
    omega

/-- Lets the worker run until it waits for a job or a render is in flight. -/
def settle (render : Renderer) (worker : RenderWorker) : RenderWorker :=
  if _resting : worker.inFlight? = none then
    match _next : worker.step? render with
    | none => worker
    | some behind => behind.settle render
  else worker
termination_by worker.stepsToRest
decreasing_by exact stepsToRest_step _next _resting

/-- Lets the render in flight finish and be sent, and the worker run on to its next
rest. Without a render in flight nothing happens. -/
def release (render : Renderer) (worker : RenderWorker) : RenderWorker :=
  if worker.inFlight? = none then worker
  else ((worker.step? render).getD worker).settle render

end RenderWorker
end DiagramEditor

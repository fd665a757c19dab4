import DiagramEditor.Render.Worker

/-! Runs of a render worker. The owner submits jobs under the tickets of one queue and
receives results, and between any two of these the worker may take a step of its own. An
exchange is a worker with its owner's queue, and with a record of all that was submitted
and received so far. -/
namespace DiagramEditor

inductive WorkerEvent where
  | submit (source : Text)
  | work
  | receive
deriving DecidableEq, Repr

structure Exchange where
  queue : RenderQueue := {}
  worker : RenderWorker := {}
  submitted : List RenderJob := []
  received : List RenderResult := []

namespace Exchange

/-- Submits a source under the next ticket. -/
def submit (exchange : Exchange) (source : Text) : Exchange :=
  let (ticket, queue) := exchange.queue.request
  { exchange with
    queue := queue
    worker := exchange.worker.submit ⟨ticket, source⟩
    submitted := exchange.submitted ++ [⟨ticket, source⟩] }

/-- Lets the worker take a step, if it has one to take. -/
def work (render : Renderer) (exchange : Exchange) : Exchange :=
  { exchange with worker := (exchange.worker.step? render).getD exchange.worker }

/-- Receives the oldest result that has arrived, if there is one. -/
def receive (exchange : Exchange) : Exchange :=
  match exchange.worker.receive? with
  | none => exchange
  | some (done, worker) =>
    { exchange with worker := worker, received := exchange.received ++ [done] }

def after (render : Renderer) (exchange : Exchange) : WorkerEvent → Exchange
  | .submit source => exchange.submit source
  | .work => exchange.work render
  | .receive => exchange.receive

/-- The exchange behind a row of events. -/
def run (render : Renderer) (exchange : Exchange) (events : List WorkerEvent) : Exchange :=
  events.foldl (after render) exchange

end Exchange
end DiagramEditor

import DiagramEditor.Render.Queue

/-! The history of a render queue: requests, and results that come in for their tickets,
in any order and any number of times. A result is live if, when it comes in, its
ticket has the number of requests so far. -/
namespace DiagramEditor

inductive QueueEvent where
  | request
  | complete (ticket : RenderTicket) (result : Except RenderError Text)

namespace RenderQueue

def after (queue : RenderQueue) : QueueEvent → RenderQueue
  | .request => queue.request.2
  | .complete ticket result => (queue.complete ticket result).2

/-- The queue behind a row of events. -/
def run (queue : RenderQueue) (events : List QueueEvent) : RenderQueue := events.foldl after queue

end RenderQueue

namespace QueueEvent

/-- The number of requests among the events. -/
def requests : List QueueEvent → Nat
  | [] => 0
  | .request :: more => requests more + 1
  | .complete _ _ :: more => requests more

/-- The live results among the events, behind `issued` requests, in their order. -/
def liveResults (issued : Nat) : List QueueEvent → List (RenderTicket × Except RenderError Text)
  | [] => []
  | .request :: more => liveResults (issued + 1) more
  | .complete ticket result :: more =>
    if ticket.seq = issued then (ticket, result) :: liveResults issued more
    else liveResults issued more

end QueueEvent
end DiagramEditor

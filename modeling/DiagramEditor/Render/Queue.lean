import DiagramEditor.Render.Error

/-! Overlapping renders. Each request gets a ticket with the next number, and only
the result for the newest ticket counts: it is shown, or its error recorded. Every
other result is dropped without a trace, also one that comes a second time or after
a newer request. A failure leaves what is on display alone. -/
namespace DiagramEditor

structure RenderTicket where
  seq : Nat
deriving DecidableEq, Repr, Inhabited

/-- What became of a finished render. -/
inductive RenderOutcome where
  | applied | stale | failed
deriving DecidableEq, Repr

structure RenderQueue where
  latestIssued : Nat := 0
  displayed? : Option RenderTicket := none
  svg? : Option Text := none
  lastError? : Option String := none
deriving DecidableEq, Repr, Inhabited

namespace RenderQueue

/-- The ticket for a new request. -/
def request (queue : RenderQueue) : RenderTicket × RenderQueue :=
  (⟨queue.latestIssued + 1⟩, { queue with latestIssued := queue.latestIssued + 1 })

def isLatest (queue : RenderQueue) (ticket : RenderTicket) : Bool :=
  ticket.seq = queue.latestIssued

/-- Takes the result of a render. -/
def complete (queue : RenderQueue) (ticket : RenderTicket) (result : Except RenderError Text) :
    RenderOutcome × RenderQueue :=
  if queue.isLatest ticket then
    match result with
    | .ok svg =>
      (.applied, { queue with svg? := some svg, displayed? := some ticket, lastError? := none })
    | .error error => (.failed, { queue with lastError? := some error.message })
  else (.stale, queue)

end RenderQueue
end DiagramEditor

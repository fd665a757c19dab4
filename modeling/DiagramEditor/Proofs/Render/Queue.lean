import DiagramEditor.Render.Queue

/-! What folding a result in does to the preview. The result of the newest request is
shown, whatever it is; the result of any other request changes nothing. -/
namespace DiagramEditor.RenderQueue

variable {queue : RenderQueue} {ticket : RenderTicket} {result : Except RenderError Text}

/-- The preview shows a result: its markup and no error, or its error. -/
def Shows (queue : RenderQueue) : Except RenderError Text → Prop
  | .ok svg => queue.svg? = some svg ∧ queue.lastError? = none
  | .error error => queue.lastError? = some error.message

theorem shows_complete (queue : RenderQueue) (result : Except RenderError Text) :
    (queue.complete ⟨queue.latestIssued⟩ result).2.Shows result := by
  cases result <;> simp [complete, isLatest, Shows]

theorem complete_of_ne (stale : ticket.seq ≠ queue.latestIssued) :
    queue.complete ticket result = (.stale, queue) := by
  simp [complete, isLatest, stale]

@[simp] theorem latestIssued_complete :
    (queue.complete ticket result).2.latestIssued = queue.latestIssued := by
  unfold complete
  split
  · cases result <;> rfl
  · rfl

theorem svg?_complete :
    (queue.complete ticket result).2.svg? =
      (if (queue.complete ticket result).1 = .applied then result.toOption else none).or
        queue.svg? := by
  unfold complete
  split
  · cases result <;> rfl
  · rfl

end DiagramEditor.RenderQueue

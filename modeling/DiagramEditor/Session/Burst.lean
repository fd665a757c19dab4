import DiagramEditor.Session.Event

/-! Bursts of changes, as the host sees them: by its calls, their times, the texts before and
behind each call, and the answers of its ticks. Where the debouncer of the session stands is
not asked. -/
namespace DiagramEditor.Session

/-- A call in a run, with the session that it finds. -/
structure Call where
  found : Session
  event : SessionEvent

/-- The calls of a run. -/
def calls (render : Renderer) (session : Session) : List SessionEvent → List Call
  | [] => []
  | event :: more => ⟨session, event⟩ :: (session.after render event).calls render more

namespace Call

/-- The time of an edit or a format that leaves a different text behind. -/
def changeTime? (call : Call) : Option Nat :=
  match call.event with
  | .edit range inserted now =>
    if (call.found.edit range inserted now).2.document.text = call.found.document.text then none
    else some now
  | .format now =>
    if (call.found.format now).2.document.text = call.found.document.text then none
    else some now
  | .tick _ | .poll | .wait | .work => none

/-- The call is a tick, and the answer is that a render was submitted. -/
def fires (call : Call) : Bool :=
  match call.event with
  | .tick now => (call.found.tick now).1
  | _ => false

/-- The render that a call asks for, if it fires: that of the text that it finds. -/
def submits (call : Call) : List RenderJob :=
  if call.fires then [⟨call.found.queue.request.1, call.found.document.text⟩] else []

/-- The time of the last change among calls, if there is one since the last that fired. -/
def lastChange? (calls : List Call) : Option Nat :=
  (calls.reverse.takeWhile (!·.fires)).findSome? changeTime?

end Call
end DiagramEditor.Session

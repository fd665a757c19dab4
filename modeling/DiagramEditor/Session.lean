import DiagramEditor.Document
import DiagramEditor.Render.Debouncer
import DiagramEditor.Render.Worker

/-! An editing session: a document with a live preview. The first text is rendered
at once. After that each burst of changes that went quiet submits one render of the
text as it then is; a call that leaves the text alone starts no burst. Finished
renders are folded into the preview when the host asks for them. -/
namespace DiagramEditor

structure Session where
  document : Document
  options : FormatOptions
  queue : RenderQueue
  debouncer : Debouncer
  worker : RenderWorker

namespace Session

/-- Submits a render of the current text under a new ticket. -/
def submitRender (session : Session) : Session :=
  let (ticket, queue) := session.queue.request
  { session with
    queue := queue
    worker := session.worker.submit ⟨ticket, session.document.text⟩ }

def start (text : Text) (debounce : Nat) (options : FormatOptions) : Session :=
  submitRender ⟨.ofText text, options, {}, { delay := debounce }, {}⟩

/-- Takes a changed document over; a change that was none leaves the burst as it is. -/
def adopt (session : Session) (document : Document) (patch : Patch) (now : Nat) : Session :=
  { session with
    document := document
    debouncer := if patch.isNoop then session.debouncer else session.debouncer.touch now }

def edit (session : Session) (range : ByteRange) (inserted : Text) (now : Nat) :
    Patch × Session :=
  let (document, patch) := session.document.edit range inserted
  (patch, session.adopt document patch now)

def format (session : Session) (now : Nat) : Patch × Session :=
  let (document, patch) := session.document.format session.options
  (patch, session.adopt document patch now)

/-- Submits a render if a burst is over, and says whether it did. -/
def tick (session : Session) (now : Nat) : Bool × Session :=
  match session.debouncer.ready now with
  | (true, debouncer) => (true, submitRender { session with debouncer := debouncer })
  | (false, debouncer) => (false, { session with debouncer := debouncer })

/-- Folds one result that has arrived. -/
def wait? (session : Session) : Option (RenderOutcome × Session) :=
  session.worker.receive?.map fun (done, worker) =>
    let (outcome, queue) := session.queue.complete done.ticket done.result
    (outcome, { session with queue := queue, worker := worker })

/-- Folds results in the order in which they arrived. -/
def foldResults (queue : RenderQueue) : List RenderResult → List RenderOutcome × RenderQueue
  | [] => ([], queue)
  | done :: more =>
    let (outcome, behind) := queue.complete done.ticket done.result
    let (outcomes, last) := foldResults behind more
    (outcome :: outcomes, last)

/-- Folds every result that has arrived. -/
def poll (session : Session) : List RenderOutcome × Session :=
  let (outcomes, queue) := foldResults session.queue session.worker.results
  (outcomes, { session with queue := queue, worker := { session.worker with results := [] } })

/-- Lets the worker take a step, if it has one to take. -/
def workerStep (session : Session) (render : Renderer) : Session :=
  { session with worker := (session.worker.step? render).getD session.worker }

def svg? (session : Session) : Option Text := session.queue.svg?

def lastError? (session : Session) : Option String := session.queue.lastError?

end Session
end DiagramEditor

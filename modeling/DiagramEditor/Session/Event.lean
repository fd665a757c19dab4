import DiagramEditor.Session

/-! Runs of a session. Its host edits, formats, lets time pass and folds results in, and
between any two of these calls the worker may take steps of its own. -/
namespace DiagramEditor

inductive SessionEvent where
  | edit (range : ByteRange) (inserted : Text) (now : Nat)
  | format (now : Nat)
  | tick (now : Nat)
  | poll
  | wait
  | work
deriving DecidableEq, Repr

/-- A render that a session asked for: its ticket, and the document as it then was. -/
structure Submission where
  ticket : RenderTicket
  document : Document
deriving DecidableEq, Repr

namespace Session

def after (render : Renderer) (session : Session) : SessionEvent → Session
  | .edit range inserted now => (session.edit range inserted now).2
  | .format now => (session.format now).2
  | .tick now => (session.tick now).2
  | .poll => session.poll.2
  | .wait => (session.wait?.map (·.2)).getD session
  | .work => session.workerStep render

/-- The session behind a row of events. -/
def run (render : Renderer) (session : Session) (events : List SessionEvent) : Session :=
  events.foldl (after render) session

/-- The results that an event folds in, in their order, each with what became of it. -/
def folds (session : Session) : SessionEvent → List (RenderOutcome × RenderResult)
  | .poll => session.poll.1.zip session.worker.results
  | .wait => (session.wait?.map (·.1)).toList.zip session.worker.results
  | _ => []

/-- The results that a row of events folds in. -/
def folded (render : Renderer) (session : Session) :
    List SessionEvent → List (RenderOutcome × RenderResult)
  | [] => []
  | event :: more => session.folds event ++ (session.after render event).folded render more

/-- The markup of the last result that was applied. -/
def lastApplied? (results : List (RenderOutcome × RenderResult)) : Option Text :=
  (results.filterMap fun (outcome, done) =>
    if outcome = .applied then done.result.toOption else none).getLast?

/-- The sessions that a fresh one can become. -/
inductive Reachable (render : Renderer) : Session → Prop where
  | start (text : Text) (debounce : Nat) (options : FormatOptions) :
    Reachable render (start text debounce options)
  | step {session : Session} (event : SessionEvent) :
    Reachable render session → Reachable render (session.after render event)

/-- The submissions of a run, each at the end of the events before it and its own: that with
which the session starts, and one at each tick that finds a burst over. -/
inductive Submits (render : Renderer) (fresh : Session) : List SessionEvent → Submission → Prop
  | start : Submits render fresh [] ⟨⟨fresh.queue.latestIssued⟩, fresh.document⟩
  | tick {earlier : List SessionEvent} {now : Nat} :
    ((fresh.run render earlier).tick now).1 = true →
    Submits render fresh (earlier ++ [.tick now])
      ⟨(fresh.run render earlier).queue.request.1, (fresh.run render earlier).document⟩

/-- Nothing is under way: no burst is pending, and no job and no result is waiting or in
the worker's hands. -/
def IsQuiet (session : Session) : Prop :=
  session.debouncer.lastChange? = none ∧ session.worker.jobs = [] ∧
    session.worker.stage = .idle ∧ session.worker.results = []

end Session
end DiagramEditor

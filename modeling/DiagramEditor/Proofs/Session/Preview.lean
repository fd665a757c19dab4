import DiagramEditor.Proofs.Document.Edit
import DiagramEditor.Proofs.Render.Queue
import DiagramEditor.Proofs.Render.Worker
import DiagramEditor.Session.Event

/-! No update is lost in the preview. At every moment of a run the newest request was
made for some text, and its result is the last that the worker owes or it is on display;
a text that has changed since then has a burst pending. So once nothing is under way the
preview shows the text as it is. The worker may step between any two results that a poll
folds in, since a poll is a row of waits. -/
namespace DiagramEditor

/-- The burst that is pending is over: its last change is at least the delay ago. -/
def Debouncer.IsOver (debouncer : Debouncer) (now : Nat) : Prop :=
  ∃ time, debouncer.lastChange? = some time ∧ time + debouncer.delay ≤ now

theorem Debouncer.ready_cases (debouncer : Debouncer) (now : Nat) :
    debouncer.IsOver now ∧
        debouncer.ready now = (true, { debouncer with lastChange? := none }) ∨
      ¬debouncer.IsOver now ∧ debouncer.ready now = (false, debouncer) := by
  have passed : debouncer.deadline?.any (· ≤ now) = true ↔ debouncer.IsOver now := by
    obtain ⟨delay, last⟩ := debouncer
    cases last <;> simp [deadline?, IsOver]
  by_cases ended : debouncer.deadline?.any (· ≤ now) = true
  · exact .inl ⟨passed.mp ended, if_pos ended⟩
  · exact .inr ⟨mt passed.mpr ended, if_neg ended⟩

namespace Session

variable {render : Renderer} {session behind : Session} {source : Text}

section Ticks

/-- What a tick does: it submits a render and forgets the burst, if the burst is over. -/
theorem tick_cases (session : Session) (now : Nat) :
    session.debouncer.IsOver now ∧ session.tick now = (true, submitRender
        { session with debouncer := { session.debouncer with lastChange? := none } }) ∨
      ¬session.debouncer.IsOver now ∧ session.tick now = (false, session) := by
  unfold tick
  rcases session.debouncer.ready_cases now with ⟨ended, ready⟩ | ⟨pending, early⟩
  · rw [ready]
    exact .inl ⟨ended, rfl⟩
  · rw [early]
    exact .inr ⟨pending, rfl⟩

theorem tick_iff {now : Nat} :
    (session.tick now).1 = true ↔ session.debouncer.IsOver now := by
  rcases session.tick_cases now with ⟨ended, ticked⟩ | ⟨pending, ticked⟩
  · simp [ticked, ended]
  · simp [ticked, pending]

end Ticks

section Waits

theorem wait?_eq_some {outcome : RenderOutcome} (waited : session.wait? = some (outcome, behind)) :
    ∃ done worker, session.worker.receive? = some (done, worker) ∧
      outcome = (session.queue.complete done.ticket done.result).1 ∧
      behind = { session with
        queue := (session.queue.complete done.ticket done.result).2, worker := worker } := by
  obtain ⟨⟨done, worker⟩, received, eq⟩ := Option.map_eq_some_iff.mp waited
  cases eq
  exact ⟨done, worker, received, rfl, rfl⟩

/-- One wait for each result that has arrived. -/
def waits (session : Session) : List SessionEvent :=
  List.replicate session.worker.results.length .wait

/-- A poll does what as many waits do as there are results, and folds in the same. -/
theorem poll_eq_waits (render : Renderer) (session : Session) :
    session.after render .poll = session.run render session.waits ∧
      session.folds .poll = session.folded render session.waits := by
  induction arrived : session.worker.results generalizing session with
  | nil =>
    obtain ⟨document, options, queue, debouncer, jobs, stage, results⟩ := session
    cases arrived
    exact ⟨rfl, rfl⟩
  | cons done more ih =>
    obtain ⟨document, options, queue, debouncer, jobs, stage, results⟩ := session
    cases arrived
    have later := ih ⟨document, options, (queue.complete done.ticket done.result).2, debouncer,
      jobs, stage, more⟩ rfl
    exact ⟨later.1, congrArg ((_, done) :: ·) later.2⟩

end Waits

/-- The newest request was made for `source`. Its result is the last one owed, or it is
on display and none is owed. The text is still that one unless a burst is pending. -/
structure Awaits (render : Renderer) (source : Text) (session : Session) : Prop where
  text : session.debouncer.lastChange? = none → session.document.text = source
  result : (session.worker.owed render).getLast? =
      some ⟨⟨session.queue.latestIssued⟩, render source⟩ ∨
    session.worker.owed render = [] ∧ session.queue.Shows (render source)

theorem awaits_submitRender (render : Renderer) (session : Session) :
    Awaits render session.document.text session.submitRender := by
  refine ⟨fun _ => rfl, .inl ?_⟩
  simp only [submitRender, RenderQueue.request, RenderWorker.owed_submit, List.getLast?_concat]
  rfl

theorem awaits_start (render : Renderer) (text : Text) (debounce : Nat)
    (options : FormatOptions) : Awaits render text (start text debounce options) :=
  awaits_submitRender render ⟨.ofText text, options, {}, { delay := debounce }, {}⟩

namespace Awaits

theorem adopt {document : Document} {patch : Patch} (holds : Awaits render source session)
    (now : Nat) (kept : patch.isNoop → document = session.document) :
    Awaits render source (session.adopt document patch now) := by
  refine ⟨?_, holds.result⟩
  intro idle
  by_cases noop : patch.isNoop
  · simp only [Session.adopt, noop, if_true] at idle
    simp only [Session.adopt, kept noop]
    exact holds.text idle
  · simp [Session.adopt, noop, Debouncer.touch] at idle

theorem tick (holds : Awaits render source session) (now : Nat) :
    ∃ newest, Awaits render newest (session.tick now).2 := by
  rcases session.tick_cases now with ⟨-, ended⟩ | ⟨-, early⟩
  · rw [ended]
    exact ⟨_, awaits_submitRender render _⟩
  · rw [early]
    exact ⟨source, holds⟩

theorem wait (holds : Awaits render source session) :
    Awaits render source (session.after render .wait) := by
  cases waited : session.wait? with
  | none =>
    simpa only [Session.after, waited, Option.map_none, Option.getD_none] using holds
  | some pair =>
    obtain ⟨outcome, behind⟩ := pair
    obtain ⟨done, worker, received, -, rfl⟩ := wait?_eq_some waited
    have owed : session.worker.owed render = done :: worker.owed render :=
      RenderWorker.owed_receive received
    simp only [Session.after, waited, Option.map_some, Option.getD_some]
    refine ⟨holds.text, ?_⟩
    rcases holds.result with newest | ⟨settled, -⟩
    · rw [owed] at newest
      cases remaining : worker.owed render with
      | nil =>
        -- The result that is folded in is that of the newest request itself.
        rw [remaining, List.getLast?_singleton, Option.some.injEq] at newest
        subst newest
        exact .inr ⟨rfl, RenderQueue.shows_complete session.queue (render source)⟩
      | cons next more =>
        rw [remaining, List.getLast?_cons_cons] at newest
        left
        rw [newest, RenderQueue.latestIssued_complete]
    · rw [settled] at owed
      contradiction

theorem waits (holds : Awaits render source session) (count : Nat) :
    Awaits render source (session.run render (List.replicate count .wait)) := by
  induction count generalizing session with
  | zero => exact holds
  | succ count ih => exact ih holds.wait

theorem work (holds : Awaits render source session) :
    Awaits render source (session.workerStep render) := by
  cases step : session.worker.step? render with
  | none => simpa only [workerStep, step, Option.getD_none] using holds
  | some worker =>
    have newest := RenderWorker.getLast?_owed_step step
    simp only [workerStep, step, Option.getD_some]
    refine ⟨holds.text, ?_⟩
    rcases holds.result with owed | ⟨settled, shown⟩
    · exact .inl (newest.trans owed)
    · rw [settled, List.getLast?_nil, List.getLast?_eq_none_iff] at newest
      exact .inr ⟨newest, shown⟩

theorem after (holds : Awaits render source session) (event : SessionEvent) :
    ∃ newest, Awaits render newest (session.after render event) := by
  cases event with
  | edit range inserted now => exact ⟨source, holds.adopt now Document.edit_of_isNoop⟩
  | format now => exact ⟨source, holds.adopt now Document.format_of_isNoop⟩
  | tick now => exact holds.tick now
  | poll =>
    rw [(poll_eq_waits render session).1]
    exact ⟨source, holds.waits _⟩
  | wait => exact ⟨source, holds.wait⟩
  | work => exact ⟨source, holds.work⟩

theorem run (holds : Awaits render source session) (events : List SessionEvent) :
    ∃ newest, Awaits render newest (session.run render events) := by
  induction events generalizing session source with
  | nil => exact ⟨source, holds⟩
  | cons event more ih =>
    obtain ⟨newest, next⟩ := holds.after event
    exact ih next

theorem shows (holds : Awaits render source session) (quiet : session.IsQuiet) :
    session.queue.Shows (render session.document.text) := by
  obtain ⟨idle, jobs, stage, results⟩ := quiet
  have settled : session.worker.owed render = [] := RenderWorker.owed_eq_nil jobs stage results
  rw [holds.text idle]
  rcases holds.result with newest | ⟨-, shown⟩
  · rw [settled] at newest
    contradiction
  · exact shown

end Awaits

section Display

theorem lastApplied?_append (front back : List (RenderOutcome × RenderResult)) :
    lastApplied? (front ++ back) = (lastApplied? back).or (lastApplied? front) := by
  simp only [lastApplied?, List.filterMap_append, List.getLast?_append]

theorem lastApplied?_singleton (outcome : RenderOutcome) (done : RenderResult) :
    lastApplied? [(outcome, done)] =
      if outcome = .applied then done.result.toOption else none := by
  obtain ⟨ticket, result⟩ := done
  cases outcome <;> cases result <;> rfl

/-- The event leaves on display what it was the last to apply, or else what was there. -/
def Displays (render : Renderer) (event : SessionEvent) : Prop :=
  ∀ session : Session, (session.after render event).svg? =
    (lastApplied? (session.folds event)).or session.svg?

theorem svg?_run_of_displays {events : List SessionEvent}
    (each : ∀ event ∈ events, Displays render event) (session : Session) :
    (session.run render events).svg? =
      (lastApplied? (session.folded render events)).or session.svg? := by
  induction events generalizing session with
  | nil => rfl
  | cons event more ih =>
    have later := ih (fun other member => each other (List.mem_cons_of_mem _ member))
      (session.after render event)
    rw [each event List.mem_cons_self session, ← Option.or_assoc, ← lastApplied?_append] at later
    exact later

theorem displays_wait (render : Renderer) : Displays render .wait := by
  intro session
  cases waited : session.wait? with
  | none => simp [after, folds, waited, lastApplied?]
  | some pair =>
    obtain ⟨outcome, behind⟩ := pair
    obtain ⟨done, worker, received, rfl, rfl⟩ := wait?_eq_some waited
    obtain ⟨more, arrived, rfl⟩ := RenderWorker.receive?_eq_some received
    simp only [after, waited, Option.map_some, Option.getD_some, folds, arrived,
      Option.toList_some, List.zip_cons_cons, List.zip_nil_left, lastApplied?_singleton]
    exact RenderQueue.svg?_complete

theorem displays (render : Renderer) (event : SessionEvent) : Displays render event := by
  cases event with
  | edit range inserted now => exact fun _ => rfl
  | format now => exact fun _ => rfl
  | tick now =>
    intro session
    simp only [after, tick]
    split <;> rfl
  | poll =>
    intro session
    obtain ⟨same, folded⟩ := poll_eq_waits render session
    rw [same, folded]
    apply svg?_run_of_displays
    intro event member
    rw [List.eq_of_mem_replicate member]
    exact displays_wait render
  | wait => exact displays_wait render
  | work => exact fun _ => rfl

theorem svg?_run (render : Renderer) (session : Session) (events : List SessionEvent) :
    (session.run render events).svg? =
      (lastApplied? (session.folded render events)).or session.svg? :=
  svg?_run_of_displays (fun event _ => displays render event) session

end Display

/-- Whatever the host and the worker did since the start, and in whatever order: when no
burst is pending and no render under way, the preview is that of the text as it is. -/
theorem preview_of_isQuiet (render : Renderer) (text : Text) (debounce : Nat)
    (options : FormatOptions) (events : List SessionEvent)
    (quiet : ((start text debounce options).run render events).IsQuiet) :
    match render ((start text debounce options).run render events).document.text with
    | .ok svg =>
      ((start text debounce options).run render events).svg? = some svg ∧
        ((start text debounce options).run render events).lastError? = none
    | .error error =>
      ((start text debounce options).run render events).lastError? = some error.message ∧
        ((start text debounce options).run render events).svg? =
          lastApplied? ((start text debounce options).folded render events) := by
  obtain ⟨newest, holds⟩ := (awaits_start render text debounce options).run events
  have shown := holds.shows quiet
  have displayed := svg?_run render (start text debounce options) events
  split
  · rename_i rendered
    rw [rendered] at shown
    exact shown
  · rename_i error rendered
    rw [rendered] at shown
    exact ⟨shown, displayed.trans Option.or_none⟩

/-- Refuses every text in which a character stands, and shows any other as it is. -/
def refusing (c : Char) : Renderer := fun text =>
  if text.contains c then .error (.rejected "refused") else .ok text

/-- An edit that cannot be rendered, behind one that can: the burst is over after the
second tick, and the old diagram stays on display beside the error. -/
theorem preview_of_refused_edit :
    let events : List SessionEvent :=
      [.work, .work, .work, .work, .poll, .edit ⟨1, 1⟩ ['!'] 0, .tick 2, .tick 3,
        .work, .work, .work, .work, .wait]
    let session := (start ['a'] 3 .standard).run (refusing '!') events
    session.IsQuiet ∧ session.document.text = ['a', '!'] ∧
      session.lastError? = some (RenderError.rejected "refused").message ∧
      session.svg? = some ['a'] := by
  intro events session
  have quiet : session.IsQuiet := ⟨rfl, rfl, rfl, rfl⟩
  have shown : session.lastError? = some (RenderError.rejected "refused").message ∧
      session.svg? = lastApplied? ((start ['a'] 3 .standard).folded (refusing '!') events) :=
    preview_of_isQuiet (refusing '!') ['a'] 3 .standard events quiet
  exact ⟨quiet, rfl, shown.1, shown.2⟩

end Session
end DiagramEditor

import DiagramEditor.Proofs.Render.History
import DiagramEditor.Proofs.Session.Delivery

/-! Where the preview comes from. Every result that a worker owes, and the markup that is on
display, is the answer to a submission of the run, made for the document as it then was. The
queue goes through requests and results only, so the tickets on display never go back, and
with them the versions of the documents for which they were issued. -/
namespace DiagramEditor

/-- If anything is on display, it is the markup of a genuine result under its ticket. -/
inductive RenderQueue.DisplaysOnly (genuine : RenderResult → Prop) (queue : RenderQueue) : Prop
  | nothing : queue.displayed? = none → queue.svg? = none → DisplaysOnly genuine queue
  | markup {ticket : RenderTicket} {svg : Text} :
    queue.displayed? = some ticket → queue.svg? = some svg → genuine ⟨ticket, .ok svg⟩ →
    DisplaysOnly genuine queue

theorem RenderQueue.DisplaysOnly.complete {genuine : RenderResult → Prop} {queue : RenderQueue}
    {ticket : RenderTicket} {result : Except RenderError Text} (holds : DisplaysOnly genuine queue)
    (real : genuine ⟨ticket, result⟩) : DisplaysOnly genuine (queue.complete ticket result).2 := by
  rw [complete_eq]
  split
  · cases result with
    | ok svg => exact .markup rfl rfl real
    | error error =>
      cases holds with
      | nothing displayed svg => exact .nothing displayed svg
      | markup displayed svg shown => exact .markup displayed svg shown
  · exact holds

namespace Session

variable {render : Renderer} {genuine : RenderResult → Prop} {session fresh : Session}

theorem run_append (front back : List SessionEvent) :
    session.run render (front ++ back) = (session.run render front).run render back :=
  List.foldl_append

theorem run_concat (events : List SessionEvent) (event : SessionEvent) :
    session.run render (events ++ [event]) = (session.run render events).after render event :=
  run_append events [event]

section Genuine

/-- All that the session will fold in, and what it has on display, is genuine. -/
structure Traces (render : Renderer) (genuine : RenderResult → Prop) (session : Session) :
    Prop where
  owed : ∀ done ∈ session.worker.owed render, genuine done
  display : session.queue.DisplaysOnly genuine

namespace Traces

theorem mono {wider : RenderResult → Prop} (holds : Traces render genuine session)
    (covers : ∀ done, genuine done → wider done) : Traces render wider session := by
  refine ⟨fun done member => covers done (holds.owed done member), ?_⟩
  cases holds.display with
  | nothing displayed svg => exact .nothing displayed svg
  | markup displayed svg real => exact .markup displayed svg (covers _ real)

theorem submitRender (holds : Traces render genuine session)
    (real : genuine ⟨session.queue.request.1, render session.document.text⟩) :
    Traces render genuine session.submitRender := by
  refine ⟨?_, ?_⟩
  · intro done member
    simp only [Session.submitRender, RenderWorker.owed_submit] at member
    rcases List.mem_append.mp member with older | newest
    · exact holds.owed done older
    · rw [List.mem_singleton.mp newest]
      exact real
  · cases holds.display with
    | nothing displayed svg => exact .nothing displayed svg
    | markup displayed svg shown => exact .markup displayed svg shown

theorem tick (holds : Traces render genuine session) (now : Nat)
    (real : (session.tick now).1 = true →
      genuine ⟨session.queue.request.1, render session.document.text⟩) :
    Traces render genuine (session.tick now).2 := by
  rcases session.tick_cases now with ⟨-, ended⟩ | ⟨-, early⟩
  · rw [ended] at real ⊢
    have quiet : Traces render genuine
        { session with debouncer := { session.debouncer with lastChange? := none } } :=
      ⟨holds.owed, holds.display⟩
    exact quiet.submitRender (real rfl)
  · rw [early]
    exact holds

theorem wait (holds : Traces render genuine session) :
    Traces render genuine (session.after render .wait) := by
  rcases session.wait_cases with ⟨-, -, same⟩ | ⟨done, more, arrived, -, behind⟩
  · rwa [same]
  · have owed : session.worker.owed render =
        done :: RenderWorker.owed render { session.worker with results := more } := by
      simp only [RenderWorker.owed, arrived, List.cons_append]
    rw [behind]
    have real : genuine done := holds.owed done (by rw [owed]; exact List.mem_cons_self)
    refine ⟨fun other member => holds.owed other ?_, holds.display.complete real⟩
    rw [owed]
    exact List.mem_cons_of_mem _ member

theorem waits (holds : Traces render genuine session) (count : Nat) :
    Traces render genuine (session.run render (List.replicate count .wait)) := by
  induction count generalizing session with
  | zero => exact holds
  | succ count ih => exact ih holds.wait

theorem work (holds : Traces render genuine session) :
    Traces render genuine (session.workerStep render) := by
  cases step : session.worker.step? render with
  | none => simpa only [workerStep, step, Option.getD_none] using holds
  | some worker =>
    simp only [workerStep, step, Option.getD_some]
    refine ⟨fun done member => holds.owed done ?_, holds.display⟩
    rcases RenderWorker.owed_step step with same | ⟨front, old, newer, back, whole, left⟩
    · rwa [← same]
    · rw [whole]
      rw [left] at member
      exact List.Sublist.subset (.append (.refl _) (.cons _ (.refl _))) member

theorem after (holds : Traces render genuine session) (event : SessionEvent)
    (real : ∀ now, event = .tick now → (session.tick now).1 = true →
      genuine ⟨session.queue.request.1, render session.document.text⟩) :
    Traces render genuine (session.after render event) := by
  cases event with
  | edit range inserted now => exact ⟨holds.owed, holds.display⟩
  | format now => exact ⟨holds.owed, holds.display⟩
  | tick now => exact holds.tick now (real now rfl)
  | poll =>
    rw [(poll_eq_waits render session).1]
    exact holds.waits _
  | wait => exact holds.wait
  | work => exact holds.work

end Traces

/-- In the course of the events a render was submitted to which this is the answer. -/
def Answers (render : Renderer) (fresh : Session) (events : List SessionEvent)
    (done : RenderResult) : Prop :=
  ∃ moment asked, moment <+: events ∧ Submits render fresh moment asked ∧
    done = ⟨asked.ticket, render asked.document.text⟩

theorem traces_start (render : Renderer) (text : Text) (debounce : Nat)
    (options : FormatOptions) :
    Traces render (Answers render (start text debounce options) [])
      (start text debounce options) := by
  have nothing : Traces render (Answers render (start text debounce options) [])
      ⟨.ofText text, options, {}, { delay := debounce }, {}⟩ :=
    ⟨nofun, .nothing rfl rfl⟩
  exact nothing.submitRender ⟨[], _, List.nil_prefix, .start, rfl⟩

theorem traces_run (render : Renderer) (text : Text) (debounce : Nat) (options : FormatOptions)
    (events : List SessionEvent) :
    Traces render (Answers render (start text debounce options) events)
      ((start text debounce options).run render events) := by
  induction events using List.reverseRecOn with
  | nil => exact traces_start render text debounce options
  | append_singleton events event ih =>
    have wider : Traces render (Answers render (start text debounce options) (events ++ [event]))
        ((start text debounce options).run render events) := by
      apply ih.mono
      rintro done ⟨moment, asked, early, submits, answer⟩
      exact ⟨moment, asked, early.trans (List.prefix_append _ _), submits, answer⟩
    rw [run_concat]
    apply wider.after
    rintro now rfl ended
    exact ⟨_, _, List.prefix_rfl, .tick ended, rfl⟩

end Genuine

section Order

theorem tick_of_over {now : Nat} (ended : (session.tick now).1 = true) :
    ∃ debouncer, (session.tick now).2 = submitRender { session with debouncer := debouncer } := by
  rcases session.tick_cases now with ⟨-, ticked⟩ | ⟨-, early⟩
  · rw [ticked]
    exact ⟨_, rfl⟩
  · rw [early] at ended
    cases ended

theorem version_le_after (render : Renderer) (session : Session) (event : SessionEvent) :
    session.document.version ≤ (session.after render event).document.version := by
  cases event with
  | edit range inserted now => exact Document.version_le_edit range inserted
  | format now => exact Document.version_le_replaceAll _
  | tick now =>
    simp only [after, tick]
    split <;> exact Nat.le_refl _
  | poll => exact Nat.le_refl _
  | wait =>
    rcases session.wait_cases with ⟨-, -, same⟩ | ⟨done, more, -, -, behind⟩
    · simp only [same, Nat.le_refl]
    · simp only [behind, Nat.le_refl]
  | work => exact Nat.le_refl _

theorem version_le_run (render : Renderer) (session : Session) (events : List SessionEvent) :
    session.document.version ≤ (session.run render events).document.version := by
  induction events generalizing session with
  | nil => exact Nat.le_refl _
  | cons event more ih => exact Nat.le_trans (version_le_after render session event) (ih _)

theorem exists_queue_wait (render : Renderer) (session : Session) :
    ∃ row, (session.after render .wait).queue = session.queue.run row := by
  rcases session.wait_cases with ⟨-, -, same⟩ | ⟨done, more, -, -, behind⟩
  · rw [same]
    exact ⟨[], rfl⟩
  · rw [behind]
    exact ⟨[.complete done.ticket done.result], rfl⟩

theorem exists_queue_run_of_each {events : List SessionEvent}
    (each : ∀ event ∈ events, ∀ session : Session,
      ∃ row, (session.after render event).queue = session.queue.run row) (session : Session) :
    ∃ row, (session.run render events).queue = session.queue.run row := by
  induction events generalizing session with
  | nil => exact ⟨[], rfl⟩
  | cons event more ih =>
    obtain ⟨first, next⟩ := each event List.mem_cons_self session
    obtain ⟨rest, last⟩ :=
      ih (fun other later => each other (.tail _ later)) (session.after render event)
    refine ⟨first ++ rest, ?_⟩
    rw [RenderQueue.run_append, ← next]
    exact last

theorem exists_queue_after (render : Renderer) (event : SessionEvent) (session : Session) :
    ∃ row, (session.after render event).queue = session.queue.run row := by
  cases event with
  | edit | format | work => exact ⟨[], rfl⟩
  | tick now =>
    rcases session.tick_cases now with ⟨-, ended⟩ | ⟨-, early⟩
    · rw [after, ended]
      exact ⟨[.request], rfl⟩
    · rw [after, early]
      exact ⟨[], rfl⟩
  | poll =>
    rw [(poll_eq_waits render session).1]
    apply exists_queue_run_of_each
    intro event member
    rw [List.eq_of_mem_replicate member]
    exact exists_queue_wait render
  | wait => exact exists_queue_wait render session

theorem exists_queue_run (render : Renderer) (session : Session) (events : List SessionEvent) :
    ∃ row, (session.run render events).queue = session.queue.run row :=
  exists_queue_run_of_each (fun event _ => exists_queue_after render event) session

theorem latestIssued_le_run (render : Renderer) (session : Session) (events : List SessionEvent) :
    session.queue.latestIssued ≤ (session.run render events).queue.latestIssued := by
  obtain ⟨row, behind⟩ := exists_queue_run render session events
  rw [behind, RenderQueue.latestIssued_run]
  exact Nat.le_add_right _ _

namespace Submits

variable {moment other events : List SessionEvent} {asked next : Submission}

theorem behind (submits : Submits render fresh moment asked) :
    asked.ticket.seq = (fresh.run render moment).queue.latestIssued ∧
      asked.document = (fresh.run render moment).document := by
  cases submits with
  | start => exact ⟨rfl, rfl⟩
  | tick ended =>
    obtain ⟨debouncer, ticked⟩ := tick_of_over ended
    rw [run_concat, after, ticked]
    exact ⟨rfl, rfl⟩

theorem prefix_of_seq_le (first : Submits render fresh moment asked)
    (second : Submits render fresh other next) (early : moment <+: events)
    (late : other <+: events) (ordered : asked.ticket.seq ≤ next.ticket.seq) :
    moment <+: other := by
  rcases List.prefix_or_prefix_of_prefix early late with before | after
  · exact before
  · have newest := second.behind.1
    cases first with
    | start => exact List.nil_prefix
    | @tick earlier now ended =>
      rcases List.prefix_concat_iff.mp after with same | ⟨rest, rfl⟩
      · exact same ▸ List.prefix_rfl
      · -- The second submission would have come before the tick, under a lower ticket.
        have issued := latestIssued_le_run render (fresh.run render other) rest
        rw [← run_append] at issued
        simp only [RenderQueue.request] at ordered
        omega

theorem version_le (first : Submits render fresh moment asked)
    (second : Submits render fresh other next) (early : moment <+: events)
    (late : other <+: events) (ordered : asked.ticket.seq ≤ next.ticket.seq) :
    asked.document.version ≤ next.document.version := by
  obtain ⟨rest, rfl⟩ := prefix_of_seq_le first second early late ordered
  rw [first.behind.2, second.behind.2, run_append]
  exact version_le_run render _ rest

end Submits

/-- The ticket on display is that of a submission made in the course of the events. -/
def OnDisplay (render : Renderer) (fresh : Session) (events : List SessionEvent)
    (shown : Submission) : Prop :=
  (fresh.run render events).queue.displayed? = some shown.ticket ∧
    ∃ moment, moment <+: events ∧ Submits render fresh moment shown

theorem seq_le_of_displayed {events more : List SessionEvent} {shown next : RenderTicket}
    {text : Text} {debounce : Nat} {options : FormatOptions}
    (before : ((start text debounce options).run render events).queue.displayed? = some shown)
    (behind : ((start text debounce options).run render (events ++ more)).queue.displayed? =
      some next) : shown.seq ≤ next.seq := by
  obtain ⟨row, early⟩ := exists_queue_run render (start text debounce options) events
  obtain ⟨rest, late⟩ :=
    exists_queue_run render ((start text debounce options).run render events) more
  have fresh : (start text debounce options).queue = RenderQueue.run {} [.request] := rfl
  rw [fresh, ← RenderQueue.run_append] at early
  rw [run_append, late, early] at behind
  rw [early] at before
  obtain ⟨later, displayed, ordered⟩ := (RenderQueue.displayed_in_order before).2 rest
  rw [behind] at displayed
  cases displayed
  exact ordered

/-- What the calls leave alone: those of the editor the preview, and those that fold results
in the document. -/
def LeavesAlone (session behind : Session) : SessionEvent → Prop
  | .edit _ _ _ | .format _ | .tick _ =>
    behind.svg? = session.svg? ∧ behind.lastError? = session.lastError?
  | .poll | .wait => behind.document = session.document
  | .work => behind.document = session.document ∧ behind.queue = session.queue

theorem leavesAlone_after (render : Renderer) (session : Session) (event : SessionEvent) :
    session.LeavesAlone (session.after render event) event := by
  cases event with
  | edit range inserted now => exact ⟨rfl, rfl⟩
  | format now => exact ⟨rfl, rfl⟩
  | tick now =>
    simp only [LeavesAlone, after, tick]
    split <;> exact ⟨rfl, rfl⟩
  | poll => rfl
  | wait =>
    rcases session.wait_cases with ⟨-, -, same⟩ | ⟨done, more, -, -, behind⟩
    · rw [same]
      rfl
    · rw [behind]
      rfl
  | work => exact ⟨rfl, rfl⟩

end Order

/-- At every moment of a run the diagram on display is what a submission of the run gave, for
the document of its moment and under its ticket; later ones are never for an older version.
Edits and ticks leave the diagram alone, and what folds results in leaves the document alone. -/
theorem svg?_genuine (render : Renderer) (text : Text) (debounce : Nat) (options : FormatOptions)
    (events : List SessionEvent) :
    let fresh := start text debounce options
    let session := fresh.run render events
    (∀ svg, session.svg? = some svg →
      ∃ shown, OnDisplay render fresh events shown ∧ render shown.document.text = .ok svg) ∧
      (session.svg? = none ↔ session.queue.displayed? = none) ∧
      (∀ more shown next, OnDisplay render fresh events shown →
        OnDisplay render fresh (events ++ more) next →
        shown.document.version ≤ next.document.version) ∧
      ∀ event, session.LeavesAlone (session.after render event) event := by
  intro fresh session
  have traces : Traces render (Answers render fresh events) session :=
    traces_run render text debounce options events
  refine ⟨?_, ?_, ?_, leavesAlone_after render session⟩
  · intro svg shows
    cases traces.display with
    | nothing displayed none =>
      rw [svg?, none] at shows
      cases shows
    | @markup ticket markup displayed same real =>
      rw [svg?, same] at shows
      cases shows
      obtain ⟨moment, asked, early, submits, answer⟩ := real
      rw [RenderResult.mk.injEq] at answer
      obtain ⟨rfl, rendered⟩ := answer
      exact ⟨asked, ⟨displayed, moment, early, submits⟩, rendered.symm⟩
  · cases traces.display with
    | nothing displayed svg => exact ⟨fun _ => displayed, fun _ => svg⟩
    | markup displayed svg real => simp [svg?, displayed, svg]
  · rintro more shown next ⟨before, moment, early, first⟩ ⟨behind, other, late, second⟩
    have ordered := seq_le_of_displayed before behind
    exact first.version_le second (early.trans (List.prefix_append _ _)) late ordered

/-- A text that is edited once more while its render waits: on display is the render of the
text as it was at the tick, and not that of the text as it is. -/
theorem svg?_genuine_of_edited_meanwhile :
    let events : List SessionEvent := [.work, .work, .work, .work, .poll]
    let more : List SessionEvent := [.edit ⟨1, 1⟩ ['b'] 0, .tick 3, .edit ⟨2, 2⟩ ['c'] 4,
      .work, .work, .work, .work, .wait]
    let session := (start ['a'] 3 .standard).run (refusing '!') (events ++ more)
    let first : Submission := ⟨⟨1⟩, .ofText ['a']⟩
    let second : Submission := ⟨⟨2⟩, ⟨['a', 'b'], ⟨2, 2⟩, 1⟩⟩
    session.document.text = ['a', 'b', 'c'] ∧ session.svg? = some ['a', 'b'] ∧
      (∃ shown, OnDisplay (refusing '!') (start ['a'] 3 .standard) (events ++ more) shown ∧
        refusing '!' shown.document.text = .ok ['a', 'b']) ∧
      OnDisplay (refusing '!') (start ['a'] 3 .standard) events first ∧
      OnDisplay (refusing '!') (start ['a'] 3 .standard) (events ++ more) second ∧
      first.document.version ≤ second.document.version := by
  intro events more session first second
  have shows : session.svg? = some ['a', 'b'] := rfl
  have before : OnDisplay (refusing '!') (start ['a'] 3 .standard) events first :=
    ⟨rfl, [], List.nil_prefix, .start⟩
  have submits : Submits (refusing '!') (start ['a'] 3 .standard)
      (events ++ [.edit ⟨1, 1⟩ ['b'] 0] ++ [.tick 3]) second := .tick rfl
  have behind : OnDisplay (refusing '!') (start ['a'] 3 .standard) (events ++ more) second :=
    ⟨rfl, _, ⟨more.drop 2, rfl⟩, submits⟩
  obtain ⟨genuine, -, -, -⟩ := svg?_genuine (refusing '!') ['a'] 3 .standard (events ++ more)
  obtain ⟨-, -, ordered, -⟩ := svg?_genuine (refusing '!') ['a'] 3 .standard events
  exact ⟨rfl, shows, genuine _ shows, before, behind, ordered more _ _ before behind⟩

end Session
end DiagramEditor

import DiagramEditor.Proofs.Document.Splice
import DiagramEditor.Proofs.Session.Provenance
import DiagramEditor.Session.Burst

/-! One render for each burst. What the debouncer remembers is the time of the last change since
the last tick that fired, told by the texts alone: an edit that leaves the text as it was, a tick
that comes too early and a result that is folded in do not touch it. So a tick fires exactly if
that time is long enough ago, and only a tick that fires makes a request. -/
namespace DiagramEditor

namespace Document

variable {document : Document}

theorem isNoop_edit_iff_text {range : ByteRange} {inserted : Text} :
    (document.edit range inserted).2.isNoop ↔
      (document.edit range inserted).1.text = document.text := by
  rw [text_edit, Text.splice_clampRange_eq_self, isNoop_edit]

theorem isNoop_format_iff_text {options : FormatOptions} :
    (document.format options).2.isNoop ↔ (document.format options).1.text = document.text := by
  rw [format, text_replaceAll, isNoop_replaceAll]

end Document

namespace Session

variable {render : Renderer} {session : Session}

namespace Call

theorem lastChange?_concat (calls : List Call) (call : Call) :
    lastChange? (calls ++ [call]) =
      if call.fires then none else call.changeTime?.or (lastChange? calls) := by
  rw [lastChange?, List.reverse_append, List.reverse_singleton, List.singleton_append,
    List.takeWhile_cons]
  cases fired : call.fires with
  | true => rfl
  | false =>
    cases changed : call.changeTime? with
    | none => simp [changed, lastChange?]
    | some time => simp [changed]

end Call

theorem calls_concat (session : Session) (events : List SessionEvent) (event : SessionEvent) :
    session.calls render (events ++ [event]) =
      session.calls render events ++ [⟨session.run render events, event⟩] := by
  induction events generalizing session with
  | nil => rfl
  | cons first more ih => exact congrArg (_ :: ·) (ih _)

theorem debouncer_adopt {document : Document} {patch : Patch}
    (noop : patch.isNoop ↔ document.text = session.document.text) (now : Nat) :
    (session.adopt document patch now).debouncer = { session.debouncer with
      lastChange? := (if document.text = session.document.text then none else some now).or
        session.debouncer.lastChange? } := by
  by_cases same : document.text = session.document.text
  · simp only [adopt, noop.mpr same, same, if_true, Option.none_or]
  · simp [adopt, mt noop.mp same, same, Debouncer.touch]

/-- What the debouncer remembers behind a call: nothing if the call fired, else the time of the
change that it made, if it made one. -/
theorem debouncer_after (render : Renderer) (session : Session) (event : SessionEvent) :
    (session.after render event).debouncer = { session.debouncer with
      lastChange? := if (Call.mk session event).fires then none
        else (Call.mk session event).changeTime?.or session.debouncer.lastChange? } := by
  cases event with
  | edit range inserted now => exact debouncer_adopt Document.isNoop_edit_iff_text now
  | format now => exact debouncer_adopt Document.isNoop_format_iff_text now
  | tick now =>
    rcases session.tick_cases now with ⟨-, ticked⟩ | ⟨-, ticked⟩
    · simp [after, ticked, Call.fires, submitRender]
    · simp [after, ticked, Call.fires, Call.changeTime?]
  | poll => rfl
  | wait =>
    rcases session.wait_cases with ⟨-, -, same⟩ | ⟨done, more, -, -, behind⟩
    · rw [same]
      rfl
    · rw [behind]
      rfl
  | work => rfl

/-- A call that makes no difference to the text makes none to the burst, unless it fires. -/
theorem debouncer_after_of_same_text {event : SessionEvent}
    (same : (session.after render event).document.text = session.document.text)
    (silent : (Call.mk session event).fires = false) :
    (session.after render event).debouncer = session.debouncer := by
  have unchanged : (Call.mk session event).changeTime? = none := by
    cases event with
    | edit range inserted now => exact if_pos same
    | format now => exact if_pos same
    | tick | poll | wait | work => rfl
  simp [debouncer_after, silent, unchanged]

theorem latestIssued_after_eq (render : Renderer) (session : Session) (event : SessionEvent) :
    (session.after render event).queue.latestIssued =
      session.queue.latestIssued + if (Call.mk session event).fires then 1 else 0 := by
  cases event with
  | tick now =>
    rcases session.tick_cases now with ⟨-, ticked⟩ | ⟨-, ticked⟩
    · simp [after, ticked, Call.fires, submitRender, RenderQueue.request]
    · simp [after, ticked, Call.fires]
  | edit | format | poll | wait | work =>
    apply latestIssued_after
    intro now same
    cases same

/-- Of the calls only one that fires hands a job to the worker, and the job is for the text as
the call finds it. -/
theorem jobs_after {event : SessionEvent} (called : event ≠ .work) :
    (session.after render event).worker.jobs =
      session.worker.jobs ++ (Call.mk session event).submits := by
  cases event with
  | edit | format | poll => exact (List.append_nil _).symm
  | tick now =>
    rcases session.tick_cases now with ⟨-, ticked⟩ | ⟨-, ticked⟩
    · simp [after, ticked, Call.submits, Call.fires, submitRender, RenderWorker.submit]
    · simp [after, ticked, Call.submits, Call.fires]
  | wait =>
    rcases session.wait_cases with ⟨-, -, same⟩ | ⟨done, more, -, -, behind⟩
    · rw [same]
      exact (List.append_nil _).symm
    · rw [behind]
      exact (List.append_nil _).symm
  | work => exact absurd rfl called

theorem jobs_work (render : Renderer) (session : Session) :
    (session.after render .work).worker.jobs <:+ session.worker.jobs := by
  cases step : session.worker.step? render with
  | none => simp [after, workerStep, step]
  | some worker =>
    simp only [after, workerStep, step, Option.getD_some]
    exact RenderWorker.jobs_step step

section Run

variable (render : Renderer) (text : Text) (debounce : Nat) (options : FormatOptions)

/-- At every moment of a run the debouncer remembers the last change since the last call that
fired. -/
theorem debouncer_run (events : List SessionEvent) :
    ((start text debounce options).run render events).debouncer =
      ⟨debounce, Call.lastChange? ((start text debounce options).calls render events)⟩ := by
  induction events using List.reverseRecOn with
  | nil => rfl
  | append_singleton events event ih =>
    rw [run_concat, debouncer_after, ih, calls_concat, Call.lastChange?_concat]

theorem latestIssued_run_start (events : List SessionEvent) :
    ((start text debounce options).run render events).queue.latestIssued =
      1 + ((start text debounce options).calls render events).countP (·.fires) := by
  induction events using List.reverseRecOn with
  | nil => rfl
  | append_singleton events event ih =>
    rw [run_concat, latestIssued_after_eq, ih, calls_concat, List.countP_append,
      List.countP_singleton, Nat.add_assoc]

/-- Whatever the calls of a run are and whichever times they name: a tick fires exactly if the
text has changed since the last tick that fired, or since the start, and the delay has gone by
since the last of these changes. A tick that fires hands the worker one job, for the text of that
moment; no other call hands it any. A call that leaves the text alone, and does not fire, leaves
the burst alone. There are as many tickets as ticks that fired, and one for the start. -/
theorem tick_iff_burst_over (events : List SessionEvent) :
    let fresh := start text debounce options
    let session := fresh.run render events
    let calls := fresh.calls render events
    (∀ now, (session.tick now).1 = true ↔
        ∃ time, Call.lastChange? calls = some time ∧ time + debounce ≤ now) ∧
      session.queue.latestIssued = 1 + calls.countP (·.fires) ∧
      ∀ event,
        let call : Call := ⟨session, event⟩
        let behind := session.after render event
        (event ≠ .work → behind.worker.jobs = session.worker.jobs ++ call.submits) ∧
        (event = .work → behind.worker.jobs <:+ session.worker.jobs) ∧
        (behind.document.text = session.document.text → call.fires = false →
          behind.debouncer = session.debouncer) := by
  intro fresh session calls
  refine ⟨fun now => ?_, latestIssued_run_start render text debounce options events, ?_⟩
  · rw [tick_iff, debouncer_run]
    rfl
  · intro event call behind
    refine ⟨jobs_after, ?_, debouncer_after_of_same_text⟩
    rintro rfl
    exact jobs_work render session

end Run

/-- A change that names an earlier time than the one before, an edit behind it that puts the same
text in place, and a tick before both that came too early: the burst is over when the delay has
gone by since the time that was named last. -/
theorem tick_iff_burst_over_of_decreasing_times :
    let idle : SessionEvent := .edit ⟨0, 1⟩ ['a'] 9
    let events : List SessionEvent :=
      [.work, .edit ⟨1, 1⟩ ['b'] 5, .tick 6, .edit ⟨2, 2⟩ ['c'] 3, idle]
    let session := (start ['a'] 2 .standard).run (refusing '!') events
    (session.tick 4).1 ≠ true ∧ (session.tick 5).1 = true ∧
      session.queue.latestIssued = 1 ∧
      (session.after (refusing '!') (.tick 5)).worker.jobs = [⟨⟨2⟩, ['a', 'b', 'c']⟩] ∧
      (session.after (refusing '!') idle).debouncer = session.debouncer ∧
      (session.after (refusing '!') .work).worker.jobs <:+ session.worker.jobs := by
  intro idle events session
  obtain ⟨ticks, issued, each⟩ :=
    tick_iff_burst_over (refusing '!') ['a'] 2 .standard events
  have early : ¬∃ time, Call.lastChange? ((start ['a'] 2 .standard).calls (refusing '!') events) =
      some time ∧ time + 2 ≤ 4 := by
    rintro ⟨time, last, passed⟩
    have named : some 3 = some time := last
    cases named
    contradiction
  obtain ⟨submits, -, -⟩ := each (.tick 5)
  obtain ⟨-, -, kept⟩ := each idle
  obtain ⟨-, takes, -⟩ := each .work
  exact ⟨mt (ticks 4).mp early, (ticks 5).mpr ⟨3, rfl, by decide⟩, issued, submits nofun,
    kept rfl rfl, takes rfl⟩

end Session
end DiagramEditor

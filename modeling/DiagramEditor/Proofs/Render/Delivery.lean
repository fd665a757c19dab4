import Mathlib.Data.List.Induction
import DiagramEditor.Proofs.Render.Worker
import DiagramEditor.Render.Exchange

/-! Delivery. The jobs that were rendered and those that wait for it stand in one row, in
the order in which they were submitted; a step of the worker drops a job of that row only
if it takes up the next one in its place. So results come in the order of their tickets,
each for a job that was submitted, and the newest job is always in the row. -/
namespace DiagramEditor

namespace Exchange

variable {render : Renderer} {exchange : Exchange}

theorem run_append (front back : List WorkerEvent) :
    exchange.run render (front ++ back) = (exchange.run render front).run render back :=
  List.foldl_append

theorem run_concat (events : List WorkerEvent) (event : WorkerEvent) :
    exchange.run render (events ++ [event]) = (exchange.run render events).after render event :=
  run_append events [event]

/-- A turn of the worker is a step of it, or nothing while it waits for a job. -/
theorem work_cases (render : Renderer) (exchange : Exchange) :
    exchange.work render = exchange ∨
      ∃ behind, RenderWorker.Advances render exchange.worker behind ∧
        exchange.work render = { exchange with worker := behind } := by
  unfold work
  cases step : exchange.worker.step? render with
  | none => exact .inl rfl
  | some behind => exact .inr ⟨behind, RenderWorker.advances_of_step? step, rfl⟩

theorem receive_cases (exchange : Exchange) :
    exchange.receive = exchange ∨
      ∃ done behind, exchange.worker.receive? = some (done, behind) ∧
        exchange.receive =
          { exchange with worker := behind, received := exchange.received ++ [done] } := by
  unfold receive
  cases received : exchange.worker.receive? with
  | none => exact .inl rfl
  | some pair => exact .inr ⟨pair.1, pair.2, rfl, rfl⟩

theorem run_receive (render : Renderer) (exchange : Exchange) :
    exchange.run render (List.replicate exchange.worker.results.length .receive) =
      { exchange with
        worker := { exchange.worker with results := [] }
        received := exchange.received ++ exchange.worker.results } := by
  induction arrived : exchange.worker.results generalizing exchange with
  | nil =>
    obtain ⟨queue, ⟨jobs, stage, results⟩, submitted, received⟩ := exchange
    cases arrived
    simp only [List.length_nil, List.replicate_zero, run, List.foldl_nil, List.append_nil]
  | cons done more ih =>
    obtain ⟨queue, ⟨jobs, stage, results⟩, submitted, received⟩ := exchange
    cases arrived
    have later := ih ⟨queue, ⟨jobs, stage, more⟩, submitted, received ++ [done]⟩ rfl
    simp only [List.append_assoc, List.singleton_append] at later
    exact later

/-- The results of all jobs that were rendered so far. -/
def rendered (exchange : Exchange) : List RenderResult :=
  exchange.received ++ exchange.worker.finished

/-- The rendered jobs and the unrendered ones are a part of those submitted, in their order
and up to the newest; the submitted ones have the numbers from one on. -/
structure InOrder (render : Renderer) (exchange : Exchange) : Prop where
  numbered : exchange.submitted.map (·.ticket.seq) = List.range' 1 exchange.queue.latestIssued
  row : ∃ done : List RenderJob, exchange.rendered = done.map (·.outcome render) ∧
    (done ++ exchange.worker.unrendered).Sublist exchange.submitted ∧
    (done ++ exchange.worker.unrendered).getLast? = exchange.submitted.getLast?

namespace InOrder

theorem start (render : Renderer) : InOrder render {} :=
  ⟨rfl, [], rfl, .slnil, rfl⟩

theorem submit (holds : InOrder render exchange) (source : Text) :
    InOrder render (exchange.submit source) := by
  obtain ⟨done, results, part, newest⟩ := holds.row
  have listed := holds.numbered
  refine ⟨?_, done, ?_, ?_, ?_⟩
  · simp only [Exchange.submit, RenderQueue.request, List.map_append, listed, List.map_cons,
      List.map_nil, List.range'_concat, Nat.one_mul, Nat.add_comm]
  · simp only [Exchange.submit, rendered, RenderWorker.finished_submit]
    exact results
  · simp only [Exchange.submit, RenderWorker.unrendered_submit, ← List.append_assoc]
    exact part.append (.refl _)
  · simp only [Exchange.submit, RenderWorker.unrendered_submit, ← List.append_assoc,
      List.getLast?_concat]

theorem work (holds : InOrder render exchange) : InOrder render (exchange.work render) := by
  rcases exchange.work_cases render with same | ⟨behind, advances, turn⟩
  · rwa [same]
  · obtain ⟨done, results, part, newest⟩ := holds.row
    rw [turn]
    refine ⟨holds.numbered, ?_⟩
    simp only [rendered] at results ⊢
    cases advances with
    | passes jobs sent =>
      rw [jobs, sent]
      exact ⟨done, results, part, newest⟩
    | @replaces job newer more before jobs sent =>
      rw [before] at part newest
      rw [jobs, sent]
      refine ⟨done, results, ?_, ?_⟩
      · exact .trans ((List.Sublist.refl done).append (List.sublist_cons_self _ _)) part
      · rw [← newest, List.getLast?_append, List.getLast?_append, List.getLast?_cons_cons]
    | @renders job more before jobs sent =>
      rw [before, List.append_cons] at part newest
      rw [jobs, sent]
      refine ⟨done ++ [job], ?_, part, newest⟩
      rw [← List.append_assoc, results, List.map_append]
      rfl

theorem receive (holds : InOrder render exchange) : InOrder render exchange.receive := by
  rcases exchange.receive_cases with same | ⟨result, behind, received, taken⟩
  · rwa [same]
  · obtain ⟨done, results, row⟩ := holds.row
    rw [taken]
    refine ⟨holds.numbered, done, ?_, ?_⟩
    · rw [← results]
      simp only [rendered, RenderWorker.finished_receive received, List.append_assoc,
        List.singleton_append]
    · rw [RenderWorker.unrendered_receive received]
      exact row

theorem after (holds : InOrder render exchange) (event : WorkerEvent) :
    InOrder render (exchange.after render event) := by
  cases event with
  | submit source => exact holds.submit source
  | work => exact holds.work
  | receive => exact holds.receive

theorem run (holds : InOrder render exchange) (events : List WorkerEvent) :
    InOrder render (exchange.run render events) := by
  induction events generalizing exchange with
  | nil => exact holds
  | cons event more ih => exact ih (holds.after event)

theorem pairwise_submitted (holds : InOrder render exchange) :
    exchange.submitted.Pairwise (·.ticket.seq < ·.ticket.seq) := by
  have increasing := List.pairwise_lt_range' (s := 1) (n := exchange.queue.latestIssued)
  rw [← holds.numbered] at increasing
  exact List.pairwise_map.mp increasing

theorem seq_le (holds : InOrder render exchange) :
    ∀ job ∈ exchange.submitted, job.ticket.seq ≤ exchange.queue.latestIssued := by
  intro job member
  have listed : job.ticket.seq ∈ exchange.submitted.map (·.ticket.seq) :=
    List.mem_map_of_mem member
  rw [holds.numbered, List.mem_range'_1] at listed
  omega

/-- What was rendered is a part of what was submitted, in its order. -/
theorem exists_rendered_eq (holds : InOrder render exchange) :
    ∃ done : List RenderJob, exchange.rendered = done.map (·.outcome render) ∧
      done.Sublist exchange.submitted := by
  obtain ⟨done, results, part, -⟩ := holds.row
  exact ⟨done, results, .trans (List.sublist_append_left _ _) part⟩

theorem pairwise_rendered (holds : InOrder render exchange) :
    exchange.rendered.Pairwise (·.ticket.seq < ·.ticket.seq) := by
  obtain ⟨done, results, part⟩ := holds.exists_rendered_eq
  rw [results, List.pairwise_map]
  exact holds.pairwise_submitted.sublist part

theorem exists_job_of_mem_rendered (holds : InOrder render exchange) {result : RenderResult}
    (member : result ∈ exchange.rendered) :
    ∃ job ∈ exchange.submitted, result = job.outcome render := by
  obtain ⟨done, results, part⟩ := holds.exists_rendered_eq
  rw [results] at member
  obtain ⟨job, listed, rfl⟩ := List.mem_map.mp member
  exact ⟨job, part.subset listed, rfl⟩

end InOrder

/-- Where a submitted job is: it waits, the worker has it at some stage, or its result has
been sent or received. -/
inductive Keeps (render : Renderer) (exchange : Exchange) (job : RenderJob) : Prop where
  | waiting : job ∈ exchange.worker.jobs → Keeps render exchange job
  | held : exchange.worker.stage = .holding job → Keeps render exchange job
  | rendering : exchange.worker.stage = .rendering job → Keeps render exchange job
  | sending : exchange.worker.stage = .sending (job.outcome render) → Keeps render exchange job
  | sent : job.outcome render ∈ exchange.worker.results → Keeps render exchange job
  | received : job.outcome render ∈ exchange.received → Keeps render exchange job

theorem keeps_of_mem_unrendered {job : RenderJob} (member : job ∈ exchange.worker.unrendered) :
    Keeps render exchange job := by
  unfold RenderWorker.unrendered at member
  split at member
  · rename_i held stage
    rcases List.mem_cons.mp member with rfl | later
    · exact .held stage
    · exact .waiting later
  · rename_i held stage
    rcases List.mem_cons.mp member with rfl | later
    · exact .rendering stage
    · exact .waiting later
  · exact .waiting member
  · exact .waiting member

theorem keeps_of_mem_rendered {job : RenderJob}
    (member : job.outcome render ∈ exchange.rendered) : Keeps render exchange job := by
  rcases List.mem_append.mp member with received | finished
  · exact .received received
  · unfold RenderWorker.finished at finished
    split at finished
    · rename_i result stage
      rcases List.mem_append.mp finished with sent | inHand
      · exact .sent sent
      · rw [← List.mem_singleton.mp inHand] at stage
        exact .sending stage
    · exact .sent finished
    · exact .sent finished
    · exact .sent finished

theorem InOrder.keeps_newest (holds : InOrder render exchange) {job : RenderJob}
    (newest : exchange.submitted.getLast? = some job) : Keeps render exchange job := by
  obtain ⟨done, results, -, last⟩ := holds.row
  rw [newest] at last
  rcases List.mem_append.mp (List.mem_of_getLast? last) with rendered | waiting
  · apply keeps_of_mem_rendered
    rw [results]
    exact List.mem_map_of_mem rendered
  · exact keeps_of_mem_unrendered waiting

/-- In the course of the events the worker put the job down, unrendered, and took up a newer
one that was waiting. -/
def Replaced (render : Renderer) (events : List WorkerEvent) (job newer : RenderJob) : Prop :=
  job.ticket.seq < newer.ticket.seq ∧
    ∃ before later, events = before ++ .work :: later ∧
      (run render {} before).worker.stage = .holding job ∧
      newer ∈ (run render {} before).worker.jobs ∧
      (run render {} (before ++ [.work])).worker.stage = .holding newer

theorem rendered_after (render : Renderer) (exchange : Exchange) (event : WorkerEvent) :
    exchange.rendered <+: (exchange.after render event).rendered := by
  cases event with
  | submit source =>
    simp only [after, submit, rendered, RenderWorker.finished_submit, List.prefix_rfl]
  | receive =>
    rcases exchange.receive_cases with same | ⟨result, behind, received, taken⟩
    · simp only [after, same, List.prefix_rfl]
    · simp only [after, taken, rendered, RenderWorker.finished_receive received,
        List.append_assoc, List.singleton_append, List.prefix_rfl]
  | work =>
    rcases exchange.work_cases render with same | ⟨behind, advances, turn⟩
    · simp only [after, same, List.prefix_rfl]
    · simp only [after, turn, rendered]
      apply (List.prefix_append_right_inj _).mpr
      cases advances with
      | passes jobs sent => simp only [sent, List.prefix_rfl]
      | replaces before jobs sent => simp only [sent, List.prefix_rfl]
      | renders before jobs sent => simp only [sent, List.prefix_append]

/-- A job that is not rendered yet stays so, or it was rendered just now, or the worker has
put it down and taken up a newer one. -/
theorem InOrder.unrendered_after (holds : InOrder render exchange) (event : WorkerEvent)
    {job : RenderJob} (member : job ∈ exchange.worker.unrendered) :
    job ∈ (exchange.after render event).worker.unrendered ∨
      (exchange.after render event).worker.stage = .sending (job.outcome render) ∨
      ∃ newer ∈ exchange.worker.jobs, job.ticket.seq < newer.ticket.seq ∧ event = .work ∧
        exchange.worker.stage = .holding job ∧
        (exchange.after render event).worker.stage = .holding newer := by
  cases event with
  | submit source =>
    left
    simp only [Exchange.after, Exchange.submit, RenderWorker.unrendered_submit]
    exact List.mem_append_left _ member
  | receive =>
    left
    rcases exchange.receive_cases with same | ⟨result, behind, received, taken⟩
    · simpa only [Exchange.after, same] using member
    · have kept := RenderWorker.unrendered_receive received
      simpa only [Exchange.after, taken, kept] using member
  | work =>
    rcases exchange.work_cases render with same | ⟨behind, advances, turn⟩
    · left
      simpa only [Exchange.after, same] using member
    · simp only [Exchange.after, turn]
      cases advances with
      | passes jobs sent =>
        left
        rwa [jobs]
      | @replaces old newer more before jobs sent held waiting stage =>
        rw [before] at member
        rw [jobs]
        rcases List.mem_cons.mp member with rfl | later
        · obtain ⟨done, -, part, -⟩ := holds.row
          have order :=
            holds.pairwise_submitted.sublist (.trans (List.sublist_append_right _ _) part)
          rw [before] at order
          have further := List.rel_of_pairwise_cons order List.mem_cons_self
          exact .inr (.inr ⟨newer, waiting, further, trivial, held, stage⟩)
        · exact .inl later
      | @renders old more before jobs sent stage =>
        rw [before] at member
        rw [jobs]
        rcases List.mem_cons.mp member with rfl | later
        · exact .inr (.inl stage)
        · exact .inl later

/-- The job is in the row, as one to render or by its result. -/
def Holds (render : Renderer) (exchange : Exchange) (job : RenderJob) : Prop :=
  job ∈ exchange.worker.unrendered ∨ job.outcome render ∈ exchange.rendered

theorem mem_submitted_after {event : WorkerEvent} {job : RenderJob}
    (member : job ∈ (exchange.after render event).submitted) :
    job ∈ exchange.submitted ∨ job ∈ (exchange.after render event).worker.unrendered := by
  cases event with
  | submit source =>
    simp only [after, submit] at member ⊢
    rcases List.mem_append.mp member with old | fresh
    · exact .inl old
    · right
      rw [RenderWorker.unrendered_submit]
      exact List.mem_append_right _ fresh
  | work => exact .inl member
  | receive =>
    left
    rcases exchange.receive_cases with same | ⟨result, behind, -, taken⟩
    · simpa only [after, same] using member
    · simpa only [after, taken] using member

/-- A job leaves the row only if a newer one replaces it. -/
theorem holds_or_replaced (render : Renderer) (events : List WorkerEvent) {job : RenderJob}
    (member : job ∈ (run render {} events).submitted) :
    Holds render (run render {} events) job ∨ ∃ newer, Replaced render events job newer := by
  induction events using List.reverseRecOn with
  | nil => cases member
  | append_singleton events event ih =>
    rw [run_concat] at member ⊢
    rcases mem_submitted_after member with old | fresh
    · rcases ih old with (waiting | rendered) | ⟨newer, further, before, later, row, moment⟩
      · have holds := (InOrder.start render).run events
        rcases holds.unrendered_after event waiting with
          still | sending | ⟨newer, queued, further, rfl, held, taken⟩
        · exact .inl (.inl still)
        · have finished : job.outcome render ∈
              ((run render {} events).after render event).worker.finished := by
            simp only [RenderWorker.finished, sending, List.mem_append, List.mem_singleton, or_true]
          exact .inl (.inr (List.mem_append_right _ finished))
        · rw [← run_concat] at taken
          exact .inr ⟨newer, further, events, [], rfl, held, queued, taken⟩
      · exact .inl (.inr ((rendered_after render _ event).subset rendered))
      · rw [row]
        refine .inr ⟨newer, further, before, later ++ [event], ?_, moment⟩
        simp only [List.append_assoc, List.cons_append]
    · exact .inl (.inl fresh)

/-- What the owner can rely on behind a row of events. -/
structure Delivers (render : Renderer) (events : List WorkerEvent) : Prop where
  genuine : ∀ done ∈ (run render {} events).received,
    ∃ job ∈ (run render {} events).submitted, done = ⟨job.ticket, render job.source⟩
  increasing : (run render {} events).received.Pairwise (·.ticket.seq < ·.ticket.seq)
  kept : ∀ job ∈ (run render {} events).submitted,
    Keeps render (run render {} events) job ∨ ∃ newer, Replaced render events job newer
  newest : ∀ job, (run render {} events).submitted.getLast? = some job →
    Keeps render (run render {} events) job

theorem delivers (render : Renderer) (events : List WorkerEvent) : Delivers render events := by
  have holds := (InOrder.start render).run events
  have part : (run render {} events).received.Sublist (run render {} events).rendered :=
    List.sublist_append_left _ _
  refine ⟨?_, holds.pairwise_rendered.sublist part, ?_, fun job => holds.keeps_newest⟩
  · intro done member
    exact holds.exists_job_of_mem_rendered (part.subset member)
  · intro job member
    rcases holds_or_replaced render events member with (waiting | rendered) | replaced
    · exact .inl (keeps_of_mem_unrendered waiting)
    · exact .inl (keeps_of_mem_rendered rendered)
    · exact .inr replaced

end Exchange
end DiagramEditor

import DiagramEditor.Render.Worker

/-! What a worker still owes its owner: the results that it has sent, the result of the
job in its hands, and those of the jobs that wait, in this order. Its steps move results
towards the front of that row; the only result that it ever takes out is followed at
once by a newer one, so the last of the row comes through. -/
namespace DiagramEditor

/-- What rendering the job gives. -/
def RenderJob.outcome (render : Renderer) (job : RenderJob) : RenderResult :=
  ⟨job.ticket, render job.source⟩

namespace RenderWorker

variable {render : Renderer} {worker behind : RenderWorker}

def inHand (render : Renderer) : WorkerStage → List RenderResult
  | .idle => []
  | .holding job | .rendering job => [job.outcome render]
  | .sending result => [result]

/-- The results still to come, the oldest first. -/
def owed (render : Renderer) (worker : RenderWorker) : List RenderResult :=
  worker.results ++ inHand render worker.stage ++ worker.jobs.map (·.outcome render)

/-- The jobs that are not rendered yet, the oldest first: that in the worker's hands and
those that wait. -/
def unrendered (worker : RenderWorker) : List RenderJob :=
  match worker.stage with
  | .holding job | .rendering job => job :: worker.jobs
  | .idle | .sending _ => worker.jobs

/-- The results that the owner has not received yet, the oldest first: those that have
been sent and that in the worker's hands. -/
def finished (worker : RenderWorker) : List RenderResult :=
  match worker.stage with
  | .sending result => worker.results ++ [result]
  | .idle | .holding _ | .rendering _ => worker.results

/-- What a step does to the jobs: it passes them on as they are, or takes up the next job
in the place of the one it holds, or has rendered the one it holds. -/
inductive Advances (render : Renderer) (worker behind : RenderWorker) : Prop where
  | passes : behind.unrendered = worker.unrendered → behind.finished = worker.finished →
      Advances render worker behind
  | replaces {job newer : RenderJob} {more : List RenderJob} :
      worker.unrendered = job :: newer :: more → behind.unrendered = newer :: more →
      behind.finished = worker.finished → worker.stage = .holding job → newer ∈ worker.jobs →
      behind.stage = .holding newer → Advances render worker behind
  | renders {job : RenderJob} {more : List RenderJob} :
      worker.unrendered = job :: more → behind.unrendered = more →
      behind.finished = worker.finished ++ [job.outcome render] →
      behind.stage = .sending (job.outcome render) → Advances render worker behind

theorem advances_of_step? (step : worker.step? render = some behind) :
    Advances render worker behind := by
  obtain ⟨jobs, stage, results⟩ := worker
  cases stage with
  | idle =>
    cases jobs with
    | nil => cases step
    | cons job more =>
      cases step
      exact .passes rfl rfl
  | holding job =>
    cases jobs with
    | nil =>
      cases step
      exact .passes rfl rfl
    | cons newer more =>
      cases step
      exact .replaces rfl rfl rfl rfl List.mem_cons_self rfl
  | rendering job =>
    cases step
    exact .renders rfl rfl rfl rfl
  | sending result =>
    cases step
    exact .passes rfl rfl

theorem jobs_step (step : worker.step? render = some behind) : behind.jobs <:+ worker.jobs := by
  obtain ⟨jobs, stage, results⟩ := worker
  cases stage with
  | idle =>
    cases jobs with
    | nil => cases step
    | cons job more =>
      cases step
      exact List.suffix_cons job more
  | holding job =>
    cases jobs with
    | nil =>
      cases step
      exact List.suffix_rfl
    | cons newer more =>
      cases step
      exact List.suffix_cons newer more
  | rendering job =>
    cases step
    exact List.suffix_rfl
  | sending result =>
    cases step
    exact List.suffix_rfl

theorem unrendered_submit (job : RenderJob) :
    (worker.submit job).unrendered = worker.unrendered ++ [job] := by
  obtain ⟨jobs, stage, results⟩ := worker
  cases stage <;> rfl

theorem finished_submit (job : RenderJob) : (worker.submit job).finished = worker.finished := by
  obtain ⟨jobs, stage, results⟩ := worker
  cases stage <;> rfl

theorem owed_submit (job : RenderJob) :
    (worker.submit job).owed render = worker.owed render ++ [job.outcome render] := by
  simp only [owed, submit, List.map_append, List.map_cons, List.map_nil, List.append_assoc]

theorem owed_eq (render : Renderer) (worker : RenderWorker) :
    worker.owed render = worker.finished ++ worker.unrendered.map (·.outcome render) := by
  obtain ⟨jobs, stage, results⟩ := worker
  cases stage <;> simp [owed, inHand, finished, unrendered]

/-- A step leaves what is owed alone, or it drops the result of a job that the next one
in the row replaces. -/
theorem owed_step (step : worker.step? render = some behind) :
    behind.owed render = worker.owed render ∨
      ∃ front old newer back, worker.owed render = front ++ old :: newer :: back ∧
        behind.owed render = front ++ newer :: back := by
  simp only [owed_eq]
  cases advances_of_step? step with
  | passes jobs sent =>
    left
    rw [jobs, sent]
  | @replaces job newer more before jobs sent =>
    right
    rw [before, jobs, sent]
    exact ⟨_, _, _, _, rfl, rfl⟩
  | renders before jobs sent =>
    left
    rw [before, jobs, sent, List.append_assoc]
    rfl

theorem getLast?_owed_step (step : worker.step? render = some behind) :
    (behind.owed render).getLast? = (worker.owed render).getLast? := by
  rcases owed_step step with same | ⟨front, old, newer, back, whole, left⟩
  · rw [same]
  · rw [whole, left, List.getLast?_append, List.getLast?_append, List.getLast?_cons_cons]

theorem receive?_eq_some {result : RenderResult}
    (received : worker.receive? = some (result, behind)) :
    ∃ more, worker.results = result :: more ∧ behind = { worker with results := more } := by
  unfold receive? at received
  split at received
  · contradiction
  · rename_i first more waiting
    cases received
    exact ⟨more, waiting, rfl⟩

theorem unrendered_receive {result : RenderResult}
    (received : worker.receive? = some (result, behind)) :
    behind.unrendered = worker.unrendered := by
  obtain ⟨more, waiting, rfl⟩ := receive?_eq_some received
  rfl

theorem finished_receive {result : RenderResult}
    (received : worker.receive? = some (result, behind)) :
    worker.finished = result :: behind.finished := by
  obtain ⟨more, waiting, rfl⟩ := receive?_eq_some received
  simp only [finished, waiting]
  cases worker.stage <;> rfl

theorem owed_receive {result : RenderResult}
    (received : worker.receive? = some (result, behind)) :
    worker.owed render = result :: behind.owed render := by
  obtain ⟨more, waiting, rfl⟩ := receive?_eq_some received
  simp only [owed, waiting, List.cons_append]

theorem owed_eq_nil (jobs : worker.jobs = []) (stage : worker.stage = .idle)
    (results : worker.results = []) : worker.owed render = [] := by
  simp [owed, jobs, stage, results, inHand]

section Rest

theorem idle_of_step?_eq_none (step : worker.step? render = none) :
    worker.inFlight? = none ∧ worker.owed render = worker.results := by
  obtain ⟨jobs, stage, results⟩ := worker
  cases stage with
  | idle =>
    cases jobs with
    | nil => exact ⟨rfl, by simp only [owed, inHand, List.map_nil, List.append_nil]⟩
    | cons job more => cases step
  | holding job => cases jobs <;> cases step
  | rendering job => cases step
  | sending result => cases step

theorem inFlight?_eq_some {job : RenderJob} (flying : worker.inFlight? = some job) :
    worker.step? render = some { worker with stage := .sending (job.outcome render) } := by
  obtain ⟨jobs, stage, results⟩ := worker
  cases stage <;> cases flying
  rfl

theorem results_step (step : worker.step? render = some behind) :
    worker.results <+: behind.results := by
  obtain ⟨jobs, stage, results⟩ := worker
  cases stage with
  | idle =>
    cases jobs with
    | nil => cases step
    | cons job more =>
      cases step
      exact List.prefix_rfl
  | holding job =>
    cases jobs <;> cases step <;> exact List.prefix_rfl
  | rendering job =>
    cases step
    exact List.prefix_rfl
  | sending result =>
    cases step
    exact List.prefix_append _ _

theorem settle_of_step?_eq_none (step : worker.step? render = none) :
    worker.settle render = worker := by
  rw [settle, dif_pos (idle_of_step?_eq_none step).1]
  split
  · rfl
  · rename_i behind next
    rw [step] at next
    cases next

theorem settle_of_step? (resting : worker.inFlight? = none)
    (step : worker.step? render = some behind) :
    worker.settle render = behind.settle render := by
  rw [settle, dif_pos resting]
  split
  · rename_i next
    rw [step] at next
    cases next
  · rename_i other next
    rw [step] at next
    cases next
    rfl

theorem settle_of_busy (busy : worker.inFlight? ≠ none) : worker.settle render = worker := by
  rw [settle, dif_neg busy]

/-- To settle is to take steps, as many as are left: what these keep, it keeps. -/
theorem settle_keeps {motive : RenderWorker → Prop} (start : motive worker)
    (keeps : ∀ before after : RenderWorker, motive before → before.step? render = some after →
      motive after) : motive (worker.settle render) := by
  induction worker using settle.induct render with
  | case1 worker resting step => rwa [settle_of_step?_eq_none step]
  | case2 worker resting behind step ih =>
    rw [settle_of_step? resting step]
    exact ih (keeps worker behind start step)
  | case3 worker busy => rwa [settle_of_busy busy]

/-- A settled worker has no step, or a render in flight. -/
theorem settle_rests (render : Renderer) (worker : RenderWorker) :
    (worker.settle render).step? render = none ∨ (worker.settle render).inFlight? ≠ none := by
  induction worker using settle.induct render with
  | case1 worker resting step =>
    rw [settle_of_step?_eq_none step]
    exact .inl step
  | case2 worker resting behind step ih => rwa [settle_of_step? resting step]
  | case3 worker busy =>
    rw [settle_of_busy busy]
    exact .inr busy

theorem release_keeps {motive : RenderWorker → Prop} (start : motive worker)
    (keeps : ∀ before after : RenderWorker, motive before → before.step? render = some after →
      motive after) : motive (worker.release render) := by
  rw [release]
  split
  · exact start
  · cases step : worker.step? render with
    | none => exact settle_keeps start keeps
    | some behind => exact settle_keeps (keeps worker behind start step) keeps

theorem results_settle (render : Renderer) (worker : RenderWorker) :
    worker.results <+: (worker.settle render).results :=
  settle_keeps (motive := fun behind => worker.results <+: behind.results) List.prefix_rfl
    fun _ _ before step => before.trans (results_step step)

/-- A worker that owes something and is let run on, also past a render, has sent a result. -/
theorem results_release_settle (owes : worker.owed render ≠ []) :
    ((worker.settle render).release render).results ≠ [] := by
  have owing : (worker.settle render).owed render ≠ [] := by
    refine settle_keeps (motive := fun behind => behind.owed render ≠ []) owes ?_
    intro before after owes step
    rwa [← List.getLast?_isSome, getLast?_owed_step step, List.getLast?_isSome]
  rcases settle_rests render worker with waits | busy
  · obtain ⟨resting, sent⟩ := idle_of_step?_eq_none waits
    rwa [release, if_pos resting, ← sent]
  · obtain ⟨job, flying⟩ := Option.ne_none_iff_exists'.mp busy
    -- The render ends, its result is sent, and what the worker does then takes none away.
    rw [release, if_neg busy, inFlight?_eq_some flying, Option.getD_some, settle_of_step? rfl rfl]
    have sent := results_settle render { (worker.settle render) with
      stage := .idle, results := (worker.settle render).results ++ [job.outcome render] }
    exact sent.ne_nil (List.append_ne_nil_of_right_ne_nil _ (List.cons_ne_nil _ _))

end Rest

end RenderWorker
end DiagramEditor

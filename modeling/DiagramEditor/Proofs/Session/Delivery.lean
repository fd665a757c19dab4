import Mathlib.Data.List.Pairwise
import DiagramEditor.Proofs.Render.Delivery
import DiagramEditor.Proofs.Session.Preview

/-! What a session folds in. A session deals with its worker as the owner of an exchange
does: each call comes to a submit, to some receives or to neither. So the results that it
folds in come in the order of their tickets, and while it submits nothing only the last of
them can be that of the newest request; all others are stale. -/
namespace DiagramEditor.Session

variable {render : Renderer} {session : Session} {exchange : Exchange}

section Folding

theorem latestIssued_foldResults (queue : RenderQueue) (results : List RenderResult) :
    (foldResults queue results).2.latestIssued = queue.latestIssued := by
  induction results generalizing queue with
  | nil => rfl
  | cons done more ih => exact (ih _).trans RenderQueue.latestIssued_complete

theorem length_foldResults (queue : RenderQueue) (results : List RenderResult) :
    (foldResults queue results).1.length = results.length := by
  induction results generalizing queue with
  | nil => rfl
  | cons done more ih => exact congrArg (· + 1) (ih _)

theorem stale_of_mem_foldResults {queue : RenderQueue} {results : List RenderResult}
    {entry : RenderOutcome × RenderResult}
    (member : entry ∈ (foldResults queue results).1.zip results)
    (older : entry.2.ticket.seq ≠ queue.latestIssued) : entry.1 = .stale := by
  induction results generalizing queue with
  | nil => simp only [List.zip_nil_right, List.not_mem_nil] at member
  | cons done more ih =>
    simp only [foldResults, List.zip_cons_cons, List.mem_cons] at member
    rcases member with rfl | later
    · exact congrArg Prod.fst (RenderQueue.complete_of_ne older)
    · apply ih later
      rwa [RenderQueue.latestIssued_complete]

theorem folds_poll (session : Session) :
    (session.folds .poll).map (·.1) = session.poll.1 ∧
      (session.folds .poll).map (·.2) = session.worker.results := by
  have same : session.poll.1.length = session.worker.results.length :=
    length_foldResults session.queue session.worker.results
  exact ⟨List.map_fst_zip (Nat.le_of_eq same), List.map_snd_zip (Nat.le_of_eq same.symm)⟩

/-- A wait folds in the oldest result, if one has arrived, and else changes nothing. -/
theorem wait_cases (session : Session) :
    (session.worker.results = [] ∧ session.folds .wait = [] ∧
      ∀ render, session.after render .wait = session) ∨
    ∃ done more, session.worker.results = done :: more ∧
      session.folds .wait = [((session.queue.complete done.ticket done.result).1, done)] ∧
      ∀ render, session.after render .wait = { session with
        queue := (session.queue.complete done.ticket done.result).2
        worker := { session.worker with results := more } } := by
  obtain ⟨document, options, queue, debouncer, jobs, stage, results⟩ := session
  cases results with
  | nil => exact .inl ⟨rfl, rfl, fun _ => rfl⟩
  | cons done more => exact .inr ⟨done, more, rfl, rfl, fun _ => rfl⟩

theorem stale_of_mem_folds {event : SessionEvent} {entry : RenderOutcome × RenderResult}
    (member : entry ∈ session.folds event)
    (older : entry.2.ticket.seq ≠ session.queue.latestIssued) : entry.1 = .stale := by
  cases event with
  | poll => exact stale_of_mem_foldResults member older
  | wait =>
    rcases session.wait_cases with ⟨-, none, -⟩ | ⟨done, more, -, one, -⟩
    · rw [none] at member
      cases member
    · rw [one] at member
      obtain rfl := List.mem_singleton.mp member
      exact congrArg Prod.fst (RenderQueue.complete_of_ne older)
  | edit | format | tick | work => cases member

theorem latestIssued_after {event : SessionEvent} (silent : ∀ now, .tick now ≠ event) :
    (session.after render event).queue.latestIssued = session.queue.latestIssued := by
  cases event with
  | edit | format | work => rfl
  | tick now => exact absurd rfl (silent now)
  | poll => exact latestIssued_foldResults session.queue session.worker.results
  | wait =>
    rcases session.wait_cases with ⟨-, -, same⟩ | ⟨done, more, -, -, behind⟩
    · rw [same]
    · rw [behind]
      exact RenderQueue.latestIssued_complete

theorem latestIssued_run {calls : List SessionEvent} (silent : ∀ now, .tick now ∉ calls) :
    (session.run render calls).queue.latestIssued = session.queue.latestIssued := by
  induction calls generalizing session with
  | nil => rfl
  | cons event more ih =>
    simp only [List.mem_cons, not_or, forall_and] at silent
    exact (ih silent.2).trans (latestIssued_after silent.1)

theorem stale_of_mem_folded {calls : List SessionEvent} (silent : ∀ now, .tick now ∉ calls)
    {entry : RenderOutcome × RenderResult} (member : entry ∈ session.folded render calls)
    (older : entry.2.ticket.seq ≠ session.queue.latestIssued) : entry.1 = .stale := by
  induction calls generalizing session with
  | nil => cases member
  | cons event more ih =>
    simp only [List.mem_cons, not_or, forall_and] at silent
    rcases List.mem_append.mp member with first | later
    · exact stale_of_mem_folds first older
    · apply ih silent.2 later
      rwa [latestIssued_after silent.1]

end Folding

section Conduct

/-- The exchange is that of the session with its worker. -/
structure Conducts (session : Session) (exchange : Exchange) : Prop where
  worker : exchange.worker = session.worker
  issued : exchange.queue.latestIssued = session.queue.latestIssued

theorem conducts_submitRender (conducts : session.Conducts exchange) :
    session.submitRender.Conducts (exchange.submit session.document.text) := by
  obtain ⟨worker, issued⟩ := conducts
  simp only [submitRender, Exchange.submit, RenderQueue.request, worker, issued]
  exact ⟨rfl, rfl⟩

/-- The exchange goes along with the session, and receives what the session folds in. -/
theorem Conducts.after (render : Renderer) (conducts : session.Conducts exchange)
    (event : SessionEvent) :
    ∃ events : List WorkerEvent,
      (session.after render event).Conducts (exchange.run render events) ∧
      (exchange.run render events).received =
        exchange.received ++ (session.folds event).map (·.2) := by
  obtain ⟨worker, issued⟩ := conducts
  cases event with
  | edit | format => exact ⟨[], ⟨worker, issued⟩, (List.append_nil _).symm⟩
  | tick now =>
    simp only [Session.after, tick]
    split
    · exact ⟨[.submit session.document.text], conducts_submitRender ⟨worker, issued⟩,
        (List.append_nil _).symm⟩
    · exact ⟨[], ⟨worker, issued⟩, (List.append_nil _).symm⟩
  | poll =>
    refine ⟨List.replicate exchange.worker.results.length .receive, ?_⟩
    rw [Exchange.run_receive, (folds_poll session).2, worker]
    exact ⟨⟨rfl, issued.trans (latestIssued_foldResults _ _).symm⟩, rfl⟩
  | wait =>
    rcases session.wait_cases with ⟨-, none, same⟩ | ⟨done, more, arrived, one, behind⟩
    · rw [none, same]
      exact ⟨[], ⟨worker, issued⟩, (List.append_nil _).symm⟩
    · refine ⟨[.receive], ?_⟩
      rw [one, behind]
      simp only [Exchange.run, List.foldl_cons, List.foldl_nil, Exchange.after, Exchange.receive,
        RenderWorker.receive?, worker, arrived]
      exact ⟨⟨rfl, issued.trans RenderQueue.latestIssued_complete.symm⟩, rfl⟩
  | work =>
    refine ⟨[.work], ⟨?_, issued⟩, (List.append_nil _).symm⟩
    simp only [Exchange.run, List.foldl_cons, List.foldl_nil, Exchange.after, Exchange.work,
      Session.after, workerStep, worker]

theorem Conducts.run (render : Renderer) (conducts : session.Conducts exchange)
    (calls : List SessionEvent) :
    ∃ events : List WorkerEvent,
      (session.run render calls).Conducts (exchange.run render events) ∧
      (exchange.run render events).received =
        exchange.received ++ (session.folded render calls).map (·.2) := by
  induction calls generalizing session exchange with
  | nil => exact ⟨[], conducts, (List.append_nil _).symm⟩
  | cons event more ih =>
    obtain ⟨first, next, folds⟩ := conducts.after render event
    obtain ⟨others, last, folded⟩ := ih next
    refine ⟨first ++ others, ?_, ?_⟩
    · rw [Exchange.run_append]
      exact last
    · rw [Exchange.run_append, folded, folds, Session.folded, List.map_append, List.append_assoc]

theorem Reachable.exists_conducts (reachable : Reachable render session) :
    ∃ events : List WorkerEvent, session.Conducts (Exchange.run render {} events) := by
  induction reachable with
  | start text debounce options => exact ⟨[.submit text], rfl, rfl⟩
  | step event _ ih =>
    obtain ⟨events, conducts⟩ := ih
    obtain ⟨others, next, -⟩ := conducts.after render event
    refine ⟨events ++ others, ?_⟩
    rw [Exchange.run_append]
    exact next

end Conduct

theorem Reachable.run (reachable : Reachable render session) (calls : List SessionEvent) :
    Reachable render (session.run render calls) := by
  induction calls generalizing session with
  | nil => exact reachable
  | cons event more ih => exact ih (reachable.step event)

/-- Whatever its calls are, a session folds results in by increasing tickets, none of them
beyond the newest. -/
theorem Reachable.folded_in_order (reachable : Reachable render session)
    (calls : List SessionEvent) :
    (session.folded render calls).Pairwise (·.2.ticket.seq < ·.2.ticket.seq) ∧
      ∀ entry ∈ session.folded render calls,
        entry.2.ticket.seq ≤ (session.run render calls).queue.latestIssued := by
  obtain ⟨events, conducts⟩ := reachable.exists_conducts
  obtain ⟨others, behind, received⟩ := conducts.run render calls
  have holds := ((Exchange.InOrder.start render).run events).run others
  have part : ((session.folded render calls).map (·.2)).Sublist
      ((Exchange.run render {} events).run render others).rendered := by
    rw [Exchange.rendered, received, List.append_assoc]
    exact .trans (List.sublist_append_left _ _) (List.sublist_append_right _ _)
  have increasing := holds.pairwise_rendered.sublist part
  rw [List.pairwise_map] at increasing
  refine ⟨increasing, ?_⟩
  intro entry member
  obtain ⟨job, submitted, same⟩ :=
    holds.exists_job_of_mem_rendered (part.subset (List.mem_map_of_mem member))
  rw [same, ← behind.issued]
  exact holds.seq_le job submitted

/-- As long as nothing is submitted, all that is folded in is stale but for the last. -/
theorem Reachable.stale_of_mem_dropLast (reachable : Reachable render session)
    {calls : List SessionEvent} (silent : ∀ now, .tick now ∉ calls) :
    ∀ outcome ∈ ((session.folded render calls).map (·.1)).dropLast, outcome = .stale := by
  intro outcome member
  rw [← List.map_dropLast] at member
  obtain ⟨entry, early, rfl⟩ := List.mem_map.mp member
  have listed : entry ∈ session.folded render calls := List.dropLast_subset _ early
  obtain ⟨increasing, bounded⟩ := reachable.folded_in_order calls
  rw [latestIssued_run silent] at bounded
  have further := increasing.rel_dropLast_getLast early
  have newest := bounded _ (List.getLast_mem (List.ne_nil_of_mem listed))
  have older : entry.2.ticket.seq ≠ session.queue.latestIssued := by omega
  exact stale_of_mem_folded silent listed older

/-- A worker and its owner, whatever either does and in whatever order: each result that
arrives is that of a job, they come by increasing tickets, and a job is given up only for
a newer one. So a session that folds results in finds them stale, all but the last. -/
theorem delivers_in_order (render : Renderer) :
    (∀ events : List WorkerEvent, Exchange.Delivers render events) ∧
      ∀ session : Session, Reachable render session →
        (∀ outcome ∈ session.poll.1.dropLast, outcome = .stale) ∧
        ∀ calls : List SessionEvent, (∀ now, .tick now ∉ calls) →
          ∀ outcome ∈ ((session.folded render calls).map (·.1)).dropLast,
            outcome = .stale := by
  refine ⟨Exchange.delivers render, fun session reachable => ⟨?_, fun calls silent =>
    reachable.stale_of_mem_dropLast silent⟩⟩
  have polled : ∀ outcome ∈ ((session.folded render [.poll]).map (·.1)).dropLast,
      outcome = .stale := reachable.stale_of_mem_dropLast nofun
  rwa [folded, folded, List.append_nil, (folds_poll session).1] at polled

/-- A job that overtakes another in the worker's hands, and a poll that finds the results
of two requests: the first is stale, the second is shown. -/
theorem stale_of_overtaken :
    let exchange := Exchange.run (refusing '!') {} [.submit ['a'], .work, .submit ['b'], .work]
    let session := (start ['a'] 3 .standard).run (refusing '!')
      [.work, .work, .work, .work, .edit ⟨1, 1⟩ ['b'] 0, .tick 3, .work, .work, .work, .work]
    exchange.submitted.getLast? = some ⟨⟨2⟩, ['b']⟩ ∧
      exchange.Keeps (refusing '!') ⟨⟨2⟩, ['b']⟩ ∧
      Reachable (refusing '!') session ∧ session.poll.1 = [.stale, .applied] ∧
      (∀ outcome ∈ session.poll.1.dropLast, outcome = .stale) ∧
      (∀ now, .tick now ∉ [SessionEvent.wait, .work, .poll]) ∧
      ∀ outcome ∈ ((session.folded (refusing '!') [.wait, .work, .poll]).map (·.1)).dropLast,
        outcome = .stale := by
  intro exchange session
  have reachable : Reachable (refusing '!') session := (Reachable.start _ _ _).run _
  have newest : exchange.submitted.getLast? = some ⟨⟨2⟩, ['b']⟩ := rfl
  obtain ⟨delivers, stale⟩ := delivers_in_order (refusing '!')
  have silent : ∀ now, .tick now ∉ [SessionEvent.wait, .work, .poll] := by simp
  obtain ⟨polled, folded⟩ := stale session reachable
  exact ⟨newest, (delivers _).newest _ newest, reachable, rfl, polled, silent, folded _ silent⟩

end DiagramEditor.Session

import Mathlib.Data.List.Nodup
import DiagramEditor.Proofs.Render.History
import DiagramEditor.Proofs.Session.Delivery

/-! Results in another order. Of results for different requests at most one is for the newest, and
the queue takes no notice of the others; so it makes no difference to the queue which of them
comes first, nor to any of them what becomes of it. -/
namespace DiagramEditor

namespace RenderQueue

variable {queue other : RenderQueue}

theorem outcome_complete_congr (issued : queue.latestIssued = other.latestIssued)
    (ticket : RenderTicket) (result : Except RenderError Text) :
    (queue.complete ticket result).1 = (other.complete ticket result).1 := by
  rw [complete_eq, complete_eq, issued]
  split
  · cases result <;> rfl
  · rfl

/-- A result that is not for the newest request does nothing, before another one and behind it. -/
theorem complete_of_older (done : RenderResult) {old : RenderResult}
    (older : old.ticket.seq ≠ queue.latestIssued) :
    ((queue.complete done.ticket done.result).2.complete old.ticket old.result).2 =
        (queue.complete done.ticket done.result).2 ∧
      ((queue.complete old.ticket old.result).2.complete done.ticket done.result).2 =
        (queue.complete done.ticket done.result).2 := by
  constructor
  · have still : old.ticket.seq ≠ (queue.complete done.ticket done.result).2.latestIssued := by
      rwa [latestIssued_complete]
    rw [complete_of_ne still]
  · rw [complete_of_ne older]

/-- Two results for different requests come to the same in either order: one of them is not for
the newest. -/
theorem complete_comm {first second : RenderResult} (different : first.ticket ≠ second.ticket) :
    ((queue.complete first.ticket first.result).2.complete second.ticket second.result).2 =
      ((queue.complete second.ticket second.result).2.complete first.ticket first.result).2 := by
  by_cases newest : second.ticket.seq = queue.latestIssued
  · have older : first.ticket.seq ≠ queue.latestIssued := by
      intro same
      apply different
      exact (RenderTicket.mk.injEq ..).mpr (same.trans newest.symm)
    obtain ⟨behind, before⟩ := complete_of_older second older
    exact before.trans behind.symm
  · obtain ⟨behind, before⟩ := complete_of_older first newest
    exact behind.trans before.symm

end RenderQueue

namespace Session

variable {queue : RenderQueue} {first second : List RenderResult}

theorem queue_foldResults (queue : RenderQueue) (results : List RenderResult) :
    (foldResults queue results).2 =
      results.foldl (fun queue done => (queue.complete done.ticket done.result).2) queue := by
  induction results generalizing queue with
  | nil => rfl
  | cons done more ih => exact ih _

/-- What becomes of each result is what would become of it if it were the first to come in. -/
theorem outcomes_foldResults (queue : RenderQueue) (results : List RenderResult) :
    (foldResults queue results).1 =
      results.map fun done => (queue.complete done.ticket done.result).1 := by
  induction results generalizing queue with
  | nil => rfl
  | cons done more ih =>
    have later := ih (queue.complete done.ticket done.result).2
    simp only [foldResults, List.map_cons, later, List.cons.injEq, true_and]
    apply List.map_congr_left
    intro next _
    exact RenderQueue.outcome_complete_congr RenderQueue.latestIssued_complete _ _

/-- Results for different requests may come in in any order: the queue is the same behind them,
with what it shows and the last error, and what becomes of each of them is the same. -/
theorem foldResults_of_perm (queue : RenderQueue) (distinct : (first.map (·.ticket)).Nodup)
    (reordered : first.Perm second) :
    let outcome (done : RenderResult) : RenderOutcome :=
      (queue.complete done.ticket done.result).1
    (foldResults queue first).2 = (foldResults queue second).2 ∧
      (foldResults queue first).1 = first.map outcome ∧
      (foldResults queue second).1 = second.map outcome := by
  intro outcome
  refine ⟨?_, outcomes_foldResults queue first, outcomes_foldResults queue second⟩
  rw [queue_foldResults, queue_foldResults]
  apply reordered.foldl_eq'
  intro done listed next behind queue
  by_cases same : done = next
  · rw [same]
  · apply RenderQueue.complete_comm
    intro ticket
    exact same (List.inj_on_of_nodup_map distinct listed behind ticket)

/-- The newest of three requests succeeds between a failure and a success of older ones, or comes
first: the diagram before it is replaced either way. -/
theorem foldResults_of_perm_of_newest_between :
    let queue := RenderQueue.run {}
      [.request, .complete ⟨1⟩ (.ok ['a']), .request, .request, .request]
    let failed : RenderResult := ⟨⟨2⟩, .error .notSvg⟩
    let newest : RenderResult := ⟨⟨4⟩, .ok ['d']⟩
    let late : RenderResult := ⟨⟨3⟩, .ok ['c']⟩
    ([failed, newest, late].map (·.ticket)).Nodup ∧
      [failed, newest, late].Perm [newest, failed, late] ∧
      (foldResults queue [failed, newest, late]).2 =
        (foldResults queue [newest, failed, late]).2 ∧
      (foldResults queue [newest, failed, late]).2.svg? = some ['d'] ∧
      (foldResults queue [failed, newest, late]).1 = [.stale, .applied, .stale] ∧
      (foldResults queue [newest, failed, late]).1 = [.applied, .stale, .stale] := by
  intro queue failed newest late
  have distinct : ([failed, newest, late].map (·.ticket)).Nodup := by decide
  have reordered : [failed, newest, late].Perm [newest, failed, late] := .swap ..
  obtain ⟨same, before, behind⟩ := foldResults_of_perm queue distinct reordered
  exact ⟨distinct, reordered, same, rfl, before, behind⟩

end Session
end DiagramEditor

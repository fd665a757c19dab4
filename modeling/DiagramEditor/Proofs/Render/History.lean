import Mathlib.Data.List.Induction
import DiagramEditor.Proofs.Render.Queue
import DiagramEditor.Render.History

/-! The last write wins. A queue that was fresh at the start of its history shows what the
last live success brought, under the ticket of that success, and the message of the last
live result if that one is a failure. Live results have tickets by increasing numbers, so
the ticket on display never goes back. -/
namespace DiagramEditor

namespace QueueEvent

/-- The successes among results, in their order. -/
def successes (results : List (RenderTicket × Except RenderError Text)) :
    List (RenderTicket × Text) :=
  results.filterMap fun (ticket, result) => result.toOption.map (ticket, ·)

/-- The message of the last of the results, if that one is a failure. -/
def failure? (results : List (RenderTicket × Except RenderError Text)) : Option String :=
  match results.getLast? with
  | some (_, .error error) => some error.message
  | _ => none

variable {issued : Nat} {ticket : RenderTicket} {result : Except RenderError Text}

theorem liveResults_append (issued : Nat) (front back : List QueueEvent) :
    liveResults issued (front ++ back) =
      liveResults issued front ++ liveResults (issued + requests front) back := by
  induction front generalizing issued with
  | nil => rfl
  | cons event more ih =>
    cases event with
    | request =>
      rw [List.cons_append, liveResults, liveResults, ih, requests, Nat.add_assoc, Nat.add_comm 1]
    | complete ticket result =>
      rw [List.cons_append, liveResults, liveResults, ih, requests]
      split <;> rfl

theorem seq_of_mem_liveResults {events : List QueueEvent}
    {entry : RenderTicket × Except RenderError Text} (member : entry ∈ liveResults issued events) :
    issued ≤ entry.1.seq ∧ entry.1.seq ≤ issued + requests events := by
  induction events generalizing issued with
  | nil => cases member
  | cons event more ih =>
    cases event with
    | request =>
      have later := ih member
      rw [requests]
      omega
    | complete ticket result =>
      rw [liveResults] at member
      rw [requests]
      split at member
      · rename_i live
        rcases List.mem_cons.mp member with rfl | later
        · exact ⟨Nat.le_of_eq live.symm, Nat.le_trans (Nat.le_of_eq live) (Nat.le_add_right _ _)⟩
        · exact ih later
      · exact ih member

theorem successes_append (front back : List (RenderTicket × Except RenderError Text)) :
    successes (front ++ back) = successes front ++ successes back :=
  List.filterMap_append

theorem successes_concat (front : List (RenderTicket × Except RenderError Text)) :
    successes (front ++ [(ticket, result)]) =
      successes front ++
        match result with
        | .ok svg => [(ticket, svg)]
        | .error _ => [] := by
  rw [successes_append]
  cases result <;> rfl

theorem failure?_concat (front : List (RenderTicket × Except RenderError Text)) :
    failure? (front ++ [(ticket, result)]) =
      match result with
      | .ok _ => none
      | .error error => some error.message := by
  rw [failure?, List.getLast?_concat]
  cases result <;> rfl

theorem exists_of_mem_successes {results : List (RenderTicket × Except RenderError Text)}
    {entry : RenderTicket × Text} (member : entry ∈ successes results) :
    ∃ result, (entry.1, result) ∈ results := by
  obtain ⟨⟨ticket, result⟩, listed, found⟩ := List.mem_filterMap.mp member
  obtain ⟨svg, -, rfl⟩ := Option.map_eq_some_iff.mp found
  exact ⟨result, listed⟩

end QueueEvent

namespace RenderQueue

open QueueEvent

variable {queue : RenderQueue} {events : List QueueEvent} {ticket : RenderTicket}
  {result : Except RenderError Text}

theorem run_append (front back : List QueueEvent) :
    queue.run (front ++ back) = (queue.run front).run back :=
  List.foldl_append

theorem latestIssued_run (queue : RenderQueue) (events : List QueueEvent) :
    (queue.run events).latestIssued = queue.latestIssued + requests events := by
  induction events generalizing queue with
  | nil => rfl
  | cons event more ih =>
    have later := ih (queue.after event)
    cases event with
    | request =>
      rw [requests, Nat.add_comm _ 1, ← Nat.add_assoc]
      exact later
    | complete ticket result =>
      rw [after, latestIssued_complete] at later
      exact later

/-- What comes of a result: only one for the newest request counts, and then by what it is. -/
theorem complete_eq (queue : RenderQueue) (ticket : RenderTicket)
    (result : Except RenderError Text) :
    queue.complete ticket result =
      if ticket.seq = queue.latestIssued then
        match result with
        | .ok svg => (.applied,
            { queue with svg? := some svg, displayed? := some ticket, lastError? := none })
        | .error error => (.failed, { queue with lastError? := some error.message })
      else (.stale, queue) := by
  by_cases newest : ticket.seq = queue.latestIssued
  · have latest : queue.isLatest ticket := decide_eq_true newest
    exact (if_pos latest).trans (if_pos newest).symm
  · have outdated : ¬queue.isLatest ticket := fun latest => newest (of_decide_eq_true latest)
    exact (if_neg outdated).trans (if_neg newest).symm

theorem latestIssued_run_fresh (events : List QueueEvent) :
    (run {} events).latestIssued = requests events :=
  (latestIssued_run {} events).trans (Nat.zero_add _)

/-- The queue shows what the events make a fresh one show: the last success among the live
results, and the message of a failure that was the last of them. -/
structure Reflects (queue : RenderQueue) (events : List QueueEvent) : Prop where
  displayed : queue.displayed? = (successes (liveResults 0 events)).getLast?.map (·.1)
  svg : queue.svg? = (successes (liveResults 0 events)).getLast?.map (·.2)
  error : queue.lastError? = failure? (liveResults 0 events)

namespace Reflects

theorem fresh : Reflects {} [] := ⟨rfl, rfl, rfl⟩

theorem request (reflects : queue.Reflects events) :
    queue.request.2.Reflects (events ++ [.request]) := by
  have same : liveResults 0 (events ++ [.request]) = liveResults 0 events := by
    rw [liveResults_append, liveResults, liveResults, List.append_nil]
  constructor
  · rw [same]
    exact reflects.displayed
  · rw [same]
    exact reflects.svg
  · rw [same]
    exact reflects.error

theorem complete (reflects : queue.Reflects events)
    (issued : queue.latestIssued = requests events) (ticket : RenderTicket)
    (result : Except RenderError Text) :
    (queue.complete ticket result).2.Reflects (events ++ [.complete ticket result]) := by
  have listed : liveResults 0 (events ++ [.complete ticket result]) = liveResults 0 events ++
      if ticket.seq = queue.latestIssued then [(ticket, result)] else [] := by
    rw [liveResults_append, Nat.zero_add, ← issued]
    rfl
  rw [complete_eq]
  by_cases live : ticket.seq = queue.latestIssued
  · rw [if_pos live] at listed ⊢
    cases result with
    | ok svg =>
      constructor
      · simp only [listed, successes_concat, List.getLast?_concat, Option.map_some]
      · simp only [listed, successes_concat, List.getLast?_concat, Option.map_some]
      · rw [listed, failure?_concat]
    | error error =>
      constructor
      · simp only [listed, successes_concat, List.append_nil, reflects.displayed]
      · simp only [listed, successes_concat, List.append_nil, reflects.svg]
      · rw [listed, failure?_concat]
  · rw [if_neg live, List.append_nil] at listed
    rw [if_neg live]
    constructor
    · rw [listed, reflects.displayed]
    · rw [listed, reflects.svg]
    · rw [listed, reflects.error]

theorem after (reflects : queue.Reflects events) (issued : queue.latestIssued = requests events)
    (event : QueueEvent) : (queue.after event).Reflects (events ++ [event]) := by
  cases event with
  | request => exact reflects.request
  | complete ticket result => exact reflects.complete issued ticket result

end Reflects

theorem reflects_run (events : List QueueEvent) : (run {} events).Reflects events := by
  induction events using List.reverseRecOn with
  | nil => exact .fresh
  | append_singleton events event ih =>
    rw [run_append]
    exact ih.after (latestIssued_run_fresh events) event

/-- The ticket on display is that of a request, and the next one on display that of a request
made later. -/
theorem displayed_in_order {events : List QueueEvent} {shown : RenderTicket}
    (displayed : shown ∈ (run {} events).displayed?) :
    shown.seq ≤ requests events ∧
      ∀ more, ∃ later ∈ ((run {} events).run more).displayed?, shown.seq ≤ later.seq := by
  rw [(reflects_run events).displayed] at displayed
  obtain ⟨last, found, rfl⟩ := Option.map_eq_some_iff.mp displayed
  obtain ⟨result, live⟩ := exists_of_mem_successes (List.mem_of_getLast? found)
  have bounded : last.1.seq ≤ requests events := by
    simpa only [Nat.zero_add] using (seq_of_mem_liveResults live).2
  refine ⟨bounded, fun more => ?_⟩
  rw [← run_append, (reflects_run (events ++ more)).displayed, liveResults_append,
    successes_append, List.getLast?_append]
  cases fresh : (successes (liveResults (0 + requests events) more)).getLast? with
  | none =>
    rw [found]
    exact ⟨last.1, rfl, Nat.le_refl _⟩
  | some newer =>
    obtain ⟨result, live⟩ := exists_of_mem_successes (List.mem_of_getLast? fresh)
    have beyond : 0 + requests events ≤ newer.1.seq := (seq_of_mem_liveResults live).1
    exact ⟨newer.1, rfl, by omega⟩

/-- Whatever requests and results a fresh queue has seen, and in whatever order: a result
counts if it is that of the newest request, else it changes nothing; on display is the last
success that counted, beside the message of a failure that counted after it. -/
theorem run_last_write_wins (events : List QueueEvent) :
    let queue := run {} events
    let live := liveResults 0 events
    (∀ ticket result,
      (queue.complete ticket result = (.stale, queue) ↔ ticket.seq ≠ requests events) ∧
      ((queue.complete ticket result).1 = .stale ↔ ticket.seq ≠ requests events) ∧
      ((queue.complete ticket result).1 = .applied ↔
        ticket.seq = requests events ∧ ∃ svg, result = .ok svg) ∧
      ((queue.complete ticket result).1 = .failed ↔
        ticket.seq = requests events ∧ ∃ error, result = .error error)) ∧
      queue.displayed? = (successes live).getLast?.map (·.1) ∧
      queue.svg? = (successes live).getLast?.map (·.2) ∧
      queue.lastError? = failure? live ∧
      ∀ shown ∈ queue.displayed?, shown.seq ≤ requests events ∧
        ∀ more, ∃ later ∈ (queue.run more).displayed?, shown.seq ≤ later.seq := by
  intro queue live
  have reflects : queue.Reflects events := reflects_run events
  refine ⟨fun ticket result => ?_, reflects.displayed, reflects.svg, reflects.error,
    fun shown => displayed_in_order⟩
  rw [complete_eq, latestIssued_run_fresh]
  by_cases newest : ticket.seq = requests events
  · cases result <;> simp [newest]
  · simp [newest]

/-- A late success of an older request is dropped, and a failure of the newest one leaves the
diagram on display. -/
theorem run_last_write_wins_of_failure :
    let queue := run {} [.request, .request, .complete ⟨2⟩ (.ok ['b']),
      .complete ⟨1⟩ (.ok ['a']), .request, .complete ⟨3⟩ (.error .notSvg)]
    queue.displayed? = some ⟨2⟩ ∧ queue.svg? = some ['b'] ∧
      queue.lastError? = some RenderError.notSvg.message ∧
      queue.complete ⟨2⟩ (.ok ['c']) = (.stale, queue) ∧
      ∃ later ∈ (queue.run [.complete ⟨3⟩ (.ok ['d'])]).displayed?, 2 ≤ later.seq := by
  intro queue
  obtain ⟨outcomes, displayed, svg, error, ordered⟩ :=
    run_last_write_wins [.request, .request, .complete ⟨2⟩ (.ok ['b']),
      .complete ⟨1⟩ (.ok ['a']), .request, .complete ⟨3⟩ (.error .notSvg)]
  exact ⟨displayed, svg, error, (outcomes ⟨2⟩ (.ok ['c'])).1.mpr (by decide),
    (ordered ⟨2⟩ displayed).2 _⟩

end RenderQueue
end DiagramEditor

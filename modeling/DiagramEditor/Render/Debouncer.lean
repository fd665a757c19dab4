/-! Bursts of changes. A burst is over once no change has come for a fixed delay; it
is then reported once. Times are handed in, in any unit, and need not increase: the
quiet period is counted from the change that was recorded last. -/
namespace DiagramEditor

structure Debouncer where
  delay : Nat
  lastChange? : Option Nat := none
deriving DecidableEq, Repr, Inhabited

namespace Debouncer

/-- Records a change and starts the quiet period anew. -/
def touch (debouncer : Debouncer) (now : Nat) : Debouncer :=
  { debouncer with lastChange? := some now }

/-- The time from which on the pending burst counts as over. The clock is taken to reach so far:
time and delay add up to a time that it can show. -/
def deadline? (debouncer : Debouncer) : Option Nat :=
  debouncer.lastChange?.map (· + debouncer.delay)

/-- Whether the pending burst is over; if so, no burst is pending behind it. -/
def ready (debouncer : Debouncer) (now : Nat) : Bool × Debouncer :=
  if debouncer.deadline?.any (· ≤ now) then (true, { debouncer with lastChange? := none })
  else (false, debouncer)

end Debouncer
end DiagramEditor

import DiagramEditor.Format.Indent

/-! The balance of a row of lines: each opening line counts one up and each closing line
one down. The block depth behind the lines is the greatest balance over all their
ends, the empty end included, since a surplus closing line is forgotten. -/
namespace DiagramEditor

namespace LineKind

def delta : LineKind → Int
  | opener => 1
  | closer => -1
  | other => 0

/-- The opening lines less the closing ones. -/
def balance : List LineKind → Int
  | [] => 0
  | kind :: more => kind.delta + balance more

/-- The greatest balance over all ends of the row. -/
def peak : List LineKind → Int
  | [] => 0
  | kind :: more => max (balance (kind :: more)) (peak more)

/-- No beginning of the row closes more than it opens. -/
def NeverDips (kinds : List LineKind) : Prop := ∀ count, 0 ≤ balance (kinds.take count)

theorem neverDips_iff {kinds : List LineKind} :
    NeverDips kinds ↔ ∀ count < kinds.length + 1, 0 ≤ balance (kinds.take count) := by
  constructor
  · exact fun steady count _ => steady count
  · intro steady count
    rcases Nat.lt_or_ge count (kinds.length + 1) with inside | beyond
    · exact steady count inside
    · have whole := steady kinds.length (Nat.lt_succ_self _)
      rwa [List.take_length, ← List.take_of_length_le (Nat.le_of_succ_le beyond)] at whole

instance : DecidablePred NeverDips := fun _ => decidable_of_iff _ neverDips_iff.symm

end LineKind
end DiagramEditor

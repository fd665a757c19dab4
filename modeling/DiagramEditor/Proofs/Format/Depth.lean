import Mathlib.Data.Finset.Lattice.Fold
import Mathlib.Data.Finset.Range
import Mathlib.Data.Int.Order.Basic
import DiagramEditor.Format.Balance

/-! The depth of a line in closed form. A pass counts blocks up and down and never below
zero, so what it has counted behind some lines is the greatest rise of the balance up to
there, over all places at which the rise may begin. Each line stands at the depth behind it,
an opening line one level less. -/
namespace DiagramEditor

namespace LineKind

variable {kind : LineKind} {kinds : List LineKind}

/-- The greatest rise of the balance from a place up to the end of the first `count` lines. -/
def rise (kinds : List LineKind) (count : Nat) : Int :=
  (Finset.range (count + 1)).sup' Finset.nonempty_range_add_one fun start =>
    balance (kinds.take count) - balance (kinds.take start)

theorem balance_le_peak (kinds : List LineKind) : balance kinds ≤ peak kinds := by
  cases kinds with
  | nil => exact Int.le_refl 0
  | cons kind more => exact Int.le_max_left _ _

theorem sub_balance_take_le_peak (kinds : List LineKind) (start : Nat) :
    balance kinds - balance (kinds.take start) ≤ peak kinds := by
  induction kinds generalizing start with
  | nil => simp [balance, peak]
  | cons kind more ih =>
    cases start with
    | zero =>
      have whole := balance_le_peak (kind :: more)
      simpa [balance] using whole
    | succ start =>
      have later := ih start
      simp only [List.take_succ_cons, balance, peak]
      omega

theorem exists_peak_eq (kinds : List LineKind) :
    ∃ start ≤ kinds.length, peak kinds = balance kinds - balance (kinds.take start) := by
  induction kinds with
  | nil => exact ⟨0, Nat.le_refl 0, rfl⟩
  | cons kind more ih =>
    obtain ⟨start, inside, reached⟩ := ih
    rcases Int.le_total (balance (kind :: more)) (peak more) with later | here
    · refine ⟨start + 1, Nat.succ_le_succ inside, ?_⟩
      rw [peak, Int.max_eq_right later, reached, List.take_succ_cons, balance, balance]
      omega
    · refine ⟨0, Nat.zero_le _, ?_⟩
      rw [peak, Int.max_eq_left here, List.take_zero, balance, balance, Int.sub_zero]

theorem rise_eq_peak (kinds : List LineKind) (count : Nat) :
    rise kinds count = peak (kinds.take count) := by
  apply le_antisymm
  · apply Finset.sup'_le
    intro start inside
    have bounded := sub_balance_take_le_peak (kinds.take count) start
    rwa [List.take_take, Nat.min_eq_left (Nat.lt_succ_iff.mp (Finset.mem_range.mp inside))]
      at bounded
  · obtain ⟨start, inside, reached⟩ := exists_peak_eq (kinds.take count)
    have early : start ≤ count := Nat.le_trans inside (List.length_take_le _ _)
    rw [List.take_take, Nat.min_eq_left early] at reached
    rw [reached]
    exact Finset.le_sup' (fun start => balance (kinds.take count) - balance (kinds.take start))
      (Finset.mem_range.mpr (Nat.lt_succ_of_le early))

theorem next_eq (kind : LineKind) (depth : Nat) :
    (kind.next depth : Int) = max 0 (depth + kind.delta) := by
  cases kind <;> simp only [next, delta] <;> omega

theorem written_eq (kind : LineKind) (depth : Nat) :
    (kind.written depth : Int) =
      if kind = opener then (kind.next depth : Int) - 1 else kind.next depth := by
  cases kind <;> simp [written, next]

end LineKind

namespace IndentState

variable {options : FormatOptions} {state : IndentState} {lines : List Text}

/-- From any state on, the depth is the balance counted from there, or where that has gone
below the greatest balance of an end of the lines, this one. -/
theorem depth_after (state : IndentState) (lines : List Text) :
    ((state.after lines).depth : Int) =
      max (state.depth + LineKind.balance (lines.map LineKind.classify))
        (LineKind.peak (lines.map LineKind.classify)) := by
  induction lines generalizing state with
  | nil => simp [after, LineKind.balance, LineKind.peak]
  | cons line more ih =>
    have later := ih ⟨(LineKind.classify line).next state.depth⟩
    have bounded := LineKind.balance_le_peak (more.map LineKind.classify)
    rw [LineKind.next_eq] at later
    simp only [List.map_cons, LineKind.balance, LineKind.peak]
    change ((after ⟨(LineKind.classify line).next state.depth⟩ more).depth : Int) = _
    omega

theorem depth_after_take (lines : List Text) (count : Nat) :
    ((after {} (lines.take count)).depth : Int) =
      LineKind.rise (lines.map LineKind.classify) count := by
  have bounded := LineKind.balance_le_peak ((lines.take count).map LineKind.classify)
  rw [depth_after, LineKind.rise_eq_peak, ← List.map_take]
  change max (0 + _) _ = _
  omega

theorem renderLines_eq_mapIdx (options : FormatOptions) (state : IndentState)
    (lines : List Text) :
    renderLines options state lines = lines.mapIdx fun i line =>
      ((state.after (lines.take i)).renderLine options line).1 := by
  induction lines generalizing state with
  | nil => rfl
  | cons line more ih =>
    have later := ih (state.renderLine options line).2
    rw [List.mapIdx_cons]
    exact congrArg ((state.renderLine options line).1 :: ·) later

theorem after_take_succ {i : Nat} (inside : i < lines.length) :
    state.after (lines.take (i + 1)) =
      ⟨(LineKind.classify lines[i]).next (state.after (lines.take i)).depth⟩ := by
  rw [List.take_succ_eq_append_getElem inside, after, List.foldl_append]
  rfl

/-- What stands before a line of a pass from depth zero is its level of indents. -/
theorem renderLine_after_take {i : Nat} (inside : i < lines.length) :
    ((after {} (lines.take i)).renderLine options lines[i]).1 =
      List.replicate (options.indentSize * Int.toNat
        (if LineKind.classify lines[i] = .opener
          then LineKind.rise (lines.map LineKind.classify) (i + 1) - 1
          else LineKind.rise (lines.map LineKind.classify) (i + 1))) ' ' ++ lines[i] := by
  have behind := depth_after_take lines (i + 1)
  rw [after_take_succ inside] at behind
  have level := LineKind.written_eq (LineKind.classify lines[i]) (after {} (lines.take i)).depth
  rw [behind] at level
  rw [← level, Int.toNat_natCast, Nat.mul_comm]
  rfl

end IndentState

/-- A formatted source in closed form: every line of the content behind its level of indents.
The level is the greatest rise of the balance up to the end of the line, the line itself not
counted where it opens a block. -/
theorem formatSource_eq_join_mapIdx (options : FormatOptions) (source : Text) :
    let lines := contentLines source
    let rise := LineKind.rise (lines.map LineKind.classify)
    formatSource options source = Text.join '\n' (lines.mapIdx fun i line =>
      List.replicate (options.indentSize * Int.toNat
        (if LineKind.classify line = .opener then rise (i + 1) - 1 else rise (i + 1))) ' ' ++
          line) ∧
      (∀ i line, lines[i]? = some line → LineKind.classify line = .opener →
        rise (i + 1) - 1 = rise i) ∧
      ∀ count, (((lines.take count).foldl
        (fun state line => (IndentState.renderLine options state line).2) {}).depth : Int) =
          rise count := by
  intro lines rise
  refine ⟨?_, ?_, IndentState.depth_after_take lines⟩
  · rw [formatSource, IndentState.renderLines_eq_mapIdx]
    apply congrArg
    rw [List.mapIdx_eq_mapIdx_iff]
    exact fun i inside => IndentState.renderLine_after_take inside
  · intro i line found opens
    obtain ⟨inside, rfl⟩ := List.getElem?_eq_some_iff.mp found
    have before := IndentState.depth_after_take lines i
    have behind := IndentState.depth_after_take lines (i + 1)
    rw [IndentState.after_take_succ inside, LineKind.next_eq, opens, LineKind.delta] at behind
    change _ = rise (i + 1) at behind
    change _ = rise i at before
    omega

/-- A surplus closing line, and behind it a block within a block that stays open. -/
theorem formatSource_of_surplus_end :
    let source := "end\n subgraph A\n\ngroup b\r\n x\nend\n y".toList
    let rise := LineKind.rise ((contentLines source).map LineKind.classify)
    formatSource .standard source = "end\nsubgraph A\n  group b\n    x\n  end\n  y".toList ∧
      (contentLines source)[2]? = some "group b".toList ∧
      LineKind.classify "group b".toList = .opener ∧ rise 3 - 1 = rise 2 ∧ rise 2 = 1 := by
  intro source rise
  have lines : contentLines source = ["end".toList, "subgraph A".toList, "group b".toList,
      "x".toList, "end".toList, "y".toList] := by decide
  obtain ⟨closed, opening, behind⟩ := formatSource_eq_join_mapIdx .standard source
  have found : (contentLines source)[2]? = some "group b".toList := by rw [lines]; rfl
  have opens : LineKind.classify "group b".toList = .opener := by decide
  refine ⟨?_, found, opens, opening 2 _ found opens, ?_⟩
  · rw [closed]
    decide
  · exact (behind 2).symm.trans (by decide)

end DiagramEditor

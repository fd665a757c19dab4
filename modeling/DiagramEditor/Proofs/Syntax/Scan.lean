import DiagramEditor.Proofs.Syntax.Match
import DiagramEditor.Proofs.Text.Boundary

/-! The steps of a scanner. One step takes a match off the front of what is left, whole
and nothing but the match. Where on its line a scanner stands matters only as far as it
stands at the start or not, so its tokens move along with it. -/
namespace DiagramEditor.Syntax.LineScanner

variable {scanner behind : LineScanner} {token : Token}

theorem next?_cons (position : Nat) (c : Char) (more : Text) (state : ScanState) :
    (⟨position, c :: more, state⟩ : LineScanner).next? =
      let start := classifyStart (position = 0) (c :: more)
      let text : Text := (c :: more).take start.2
      some (⟨start.1, text, ⟨position, position + text.size⟩⟩,
        ⟨position + text.size, (c :: more).drop start.2, state⟩) := by
  obtain ⟨positive, -⟩ := classifyStart_bounds (position = 0) c more
  obtain ⟨length, eq⟩ := Nat.exists_eq_succ_of_ne_zero (Nat.ne_of_gt positive)
  simp only [next?, eq, List.take_succ_cons, List.drop_succ_cons, Nat.succ_sub_one]

/-- One step takes a nonempty token off the front of what is left. -/
theorem next?_cuts (step : scanner.next? = some (token, behind)) :
    token.text ≠ [] ∧ scanner.rest = token.text ++ behind.rest ∧
      token.span = ⟨scanner.position, behind.position⟩ ∧
      behind.position = scanner.position + token.text.size := by
  unfold next? at step
  split at step
  · contradiction
  · rename_i c more eq
    cases step
    refine ⟨List.cons_ne_nil _ _, ?_, rfl, rfl⟩
    rw [eq, List.cons_append, List.take_append_drop]

theorem next?_eq_none (finished : scanner.next? = none) : scanner.rest = [] := by
  unfold next? at finished
  split at finished
  · assumption
  · contradiction

theorem tokens_nil (position : Nat) (state : ScanState) :
    (⟨position, [], state⟩ : LineScanner).tokens = [] := by
  rw [tokens]
  split
  · rfl
  · rename_i step
    simp [next?] at step

theorem tokens_of_next? (step : scanner.next? = some (token, behind)) :
    scanner.tokens = token :: behind.tokens := by
  rw [tokens]
  split
  · rename_i finished
    rw [finished] at step
    contradiction
  · rename_i first after again
    cases again.symm.trans step
    rfl

theorem next?_move {distance : Nat} (state : ScanState)
    (kept : scanner.position = 0 → distance = 0)
    (step : scanner.next? = some (token, behind)) :
    (⟨scanner.position + distance, scanner.rest, state⟩ : LineScanner).next? =
      some (token.shift distance, ⟨behind.position + distance, behind.rest, state⟩) := by
  obtain ⟨position, rest, before⟩ := scanner
  cases rest with
  | nil => contradiction
  | cons c more =>
    have same : decide (position + distance = 0) = decide (position = 0) := by
      simp only [decide_eq_decide]
      exact ⟨fun zero => by omega, fun zero => by simp [zero, kept zero]⟩
    rw [next?_cons] at step ⊢
    cases step
    simp only [same, Token.shift, ByteRange.shift, Nat.add_right_comm]

/-- A scanner further to the right, but not away from the start of a line, gives the same
tokens further to the right, whatever it carries along. -/
theorem tokens_move (scanner : LineScanner) (distance : Nat) (state : ScanState)
    (kept : scanner.position = 0 → distance = 0) :
    (⟨scanner.position + distance, scanner.rest, state⟩ : LineScanner).tokens =
      scanner.tokens.map (·.shift distance) := by
  fun_induction tokens scanner with
  | case1 scanner finished =>
    rw [next?_eq_none finished, tokens_nil, List.map_nil]
  | case2 scanner token behind step ih =>
    obtain ⟨nonempty, -, -, stop⟩ := next?_cuts step
    have further := Text.size_pos nonempty
    rw [tokens_of_next? (next?_move state kept step), ih (by omega), List.map_cons]

end DiagramEditor.Syntax.LineScanner

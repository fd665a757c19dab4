import DiagramEditor.Text.Basic

/-! Runs of characters of one class. A run is what `takeWhile` finds in front of a text that
does not begin with a character of the class; the digits of a number are such a run. -/
namespace DiagramEditor.Text

variable {p : Char → Bool} {c : Char} {run rest : Text}

theorem bounds_of_isAlphanum (alphanumeric : c.isAlphanum) : 0x30 ≤ c.toNat ∧ c.toNat ≤ 0x7A := by
  have between {low high : Char} (least : 0x30 ≤ low.toNat) (greatest : high.toNat ≤ 0x7A)
      (above : c.val ≥ low.val) (below : c.val ≤ high.val) : 0x30 ≤ c.toNat ∧ c.toNat ≤ 0x7A :=
    ⟨Nat.le_trans least above, Nat.le_trans below greatest⟩
  rcases Bool.or_eq_true_iff.mp alphanumeric with letter | digit
  · rcases Bool.or_eq_true_iff.mp letter with upper | lower
    · obtain ⟨above, below⟩ := of_decide_eq_true upper
      exact between (by decide) (by decide) above below
    · obtain ⟨above, below⟩ := Bool.and_eq_true_iff.mp lower
      exact between (by decide) (by decide) (of_decide_eq_true above) (of_decide_eq_true below)
  · obtain ⟨above, below⟩ := Bool.and_eq_true_iff.mp digit
    exact between (by decide) (by decide) (of_decide_eq_true above) (of_decide_eq_true below)

theorem takeWhile_run (inside : ∀ c ∈ run, p c) (stop : rest.head?.any p = false) :
    (run ++ rest).takeWhile p = run := by
  rw [List.takeWhile_append_of_pos inside]
  cases rest with
  | nil => exact List.append_nil run
  | cons c more =>
    have outside : ¬p c := by simpa using stop
    rw [List.takeWhile_cons_of_neg outside, List.append_nil]

theorem dropWhile_run (inside : ∀ c ∈ run, p c) (stop : rest.head?.any p = false) :
    (run ++ rest).dropWhile p = rest := by
  rw [List.dropWhile_append_of_pos inside]
  cases rest with
  | nil => rfl
  | cons c more =>
    have outside : ¬p c := by simpa using stop
    rw [List.dropWhile_cons_of_neg outside]

theorem head?_any_dropWhile (p : Char → Bool) (text : Text) :
    (text.dropWhile p).head?.any p = false := by
  have first := List.head?_dropWhile_not p text
  cases rest : text.dropWhile p with
  | nil => rfl
  | cons c more =>
    rw [rest] at first
    simpa using first

theorem isDigit_of_mem_toDigits (n : Nat) : ∀ c ∈ Nat.toDigits 10 n, c.isDigit := by
  intro c member
  exact Nat.isDigit_of_mem_toDigits (by decide) (by decide) member

end DiagramEditor.Text

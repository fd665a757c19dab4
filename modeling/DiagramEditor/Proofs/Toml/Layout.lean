import DiagramEditor.Toml.Layout

/-! What stands between the parts of a document is skipped, and nothing else is: a text that
begins with a visible character stays as it is. -/
namespace DiagramEditor.Toml

variable {c : Char} {rest : Text}

/-- A character that is no blank, begins no comment and ends no line. -/
def isVisible (c : Char) : Bool := !isBlank c && !isControl c && c != '#'

theorem not_isControl_of_isVisible (visible : isVisible c) : isControl c = false := by
  simp only [isVisible, Bool.and_eq_true, Bool.not_eq_true'] at visible
  exact visible.1.2

theorem lineEnd?_of_not_isControl (plain : isControl c = false) (rest : Text) :
    lineEnd? (c :: rest) = none := by
  unfold lineEnd?
  split
  · rename_i same
    cases same
    cases plain
  · rename_i same
    cases same
    cases plain
  · rfl

theorem skipBlanks_of_not_isBlank (dark : isBlank c = false) (rest : Text) :
    skipBlanks (c :: rest) = c :: rest :=
  List.dropWhile_cons_of_neg (by simp [dark])

theorem skipComment_of_ne (other : c ≠ '#') (rest : Text) :
    skipComment (c :: rest) = c :: rest := by
  unfold skipComment
  split
  · rename_i same
    exact absurd (List.cons.inj same).1 other
  · rfl

theorem skipLines_of_isVisible (visible : isVisible c) (rest : Text) :
    skipLines (c :: rest) = c :: rest := by
  have plain := not_isControl_of_isVisible visible
  simp only [isVisible, Bool.and_eq_true, Bool.not_eq_true', bne_iff_ne] at visible
  obtain ⟨⟨dark, -⟩, noComment⟩ := visible
  have start : skipComment (skipBlanks (c :: rest)) = c :: rest := by
    rw [skipBlanks_of_not_isBlank dark, skipComment_of_ne noComment]
  rw [skipLines, start]
  split
  · rename_i ended
    cases ended.symm.trans (lineEnd?_of_not_isControl plain rest)
  · rfl

theorem skipLines_newline (rest : Text) : skipLines ('\n' :: rest) = skipLines rest := by
  have ended : lineEnd? (skipComment (skipBlanks ('\n' :: rest))) = some rest := rfl
  rw [skipLines]
  split
  · rename_i again
    cases again.symm.trans ended
    rfl
  · rename_i missing
    cases missing.symm.trans ended

theorem skipLines_nil : skipLines [] = [] := by
  rw [skipLines]
  rfl

theorem skipLines_blank (white : isBlank c) (rest : Text) :
    skipLines (c :: rest) = skipLines rest := by
  have skipped : skipBlanks (c :: rest) = skipBlanks rest := List.dropWhile_cons_of_pos white
  rw [skipLines, skipLines, skipped]

end DiagramEditor.Toml

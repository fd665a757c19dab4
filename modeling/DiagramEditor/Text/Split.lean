import DiagramEditor.Text.Basic

/-! Cutting a text at every occurrence of one character, and joining pieces with it.
The cut keeps every other character, so joining the pieces gives the text back. -/
namespace DiagramEditor.Text

/-- The pieces between the separators, one more than there are separators. -/
def split (separator : Char) : Text → List Text
  | [] => [[]]
  | c :: rest =>
    if c = separator then [] :: split separator rest
    else
      match split separator rest with
      | [] => [[c]]
      | piece :: more => (c :: piece) :: more

/-- Pieces written one after the other with a separator between two of them. -/
def join (separator : Char) : List Text → Text
  | [] => []
  | [piece] => piece
  | piece :: next :: more => piece ++ separator :: join separator (next :: more)

theorem split_ne_nil (separator : Char) (text : Text) : text.split separator ≠ [] := by
  induction text with
  | nil => simp [split]
  | cons c rest ih =>
    unfold split
    split
    · simp
    · split <;> simp

theorem join_split (separator : Char) (text : Text) :
    join separator (text.split separator) = text := by
  induction text with
  | nil => rfl
  | cons c rest ih =>
    unfold split
    cases pieces : split separator rest with
    | nil => exact absurd pieces (split_ne_nil separator rest)
    | cons piece more =>
      rw [pieces] at ih
      split
      · rename_i same
        rw [same, join, ih, List.nil_append]
      · cases more with
        | nil => simpa [join] using ih
        | cons next others => simpa [join] using ih

end DiagramEditor.Text

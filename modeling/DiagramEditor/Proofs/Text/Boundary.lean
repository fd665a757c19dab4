import DiagramEditor.Text.Utf8

/-! Places in a text. The width of a character is the number of bytes of its encoded
form, so a range of offsets cuts the same piece out of a text and out of its bytes. -/
namespace DiagramEditor.Text

theorem toUtf8_append (front back : Text) :
    toUtf8 (front ++ back) = front.toUtf8 ++ back.toUtf8 :=
  List.flatMap_append

theorem length_toUtf8 (text : Text) : text.toUtf8.length = text.size := by
  induction text with
  | nil => rfl
  | cons c rest ih =>
    have split : toUtf8 (c :: rest) = String.utf8EncodeChar c ++ toUtf8 rest := List.flatMap_cons
    rw [split, List.length_append, String.length_utf8EncodeChar, ih, size_cons]

theorem size_pos {text : Text} (nonempty : text ≠ []) : 0 < text.size := by
  cases text with
  | nil => exact absurd rfl nonempty
  | cons c rest =>
    have := c.utf8Size_pos
    rw [size_cons]
    omega

/-- Of two beginnings of a text the one that takes no more bytes begins the other. -/
theorem prefix_of_size_le {text first second : Text} (one : first <+: text) (two : second <+: text)
    (within : first.size ≤ second.size) : first <+: second := by
  rcases List.prefix_or_prefix_of_prefix one two with begins | ⟨more, rfl⟩
  · exact begins
  · cases more with
    | nil => exact ⟨[], by simp⟩
    | cons c others =>
      have further := size_pos (List.cons_ne_nil c others)
      rw [size_append] at within
      omega

theorem isBoundary_add_size (front middle back : Text) :
    IsBoundary (front ++ (middle ++ back)) (front.size + middle.size) := by
  rw [← size_append, ← List.append_assoc]
  exact isBoundary_size_append _ _

theorem slice_append (front middle back : Text) :
    slice (front ++ (middle ++ back)) ⟨front.size, front.size + middle.size⟩ = middle := by
  rw [slice, dropBytes_size_append, Nat.add_sub_cancel_left, takeBytes_size_append]

theorem toUtf8_middle (front middle back : Text) :
    ((toUtf8 (front ++ (middle ++ back))).drop front.size).take middle.size = middle.toUtf8 := by
  rw [toUtf8_append, toUtf8_append, List.drop_left' (length_toUtf8 front),
    List.take_left' (length_toUtf8 middle)]

end DiagramEditor.Text

/-! Source texts and positions in them. A text is its list of characters; a
position is a byte offset into the text's UTF-8 form, so it advances by the
width of each character. A cut at an offset never splits a character: it falls
at the greatest character boundary that the offset reaches. -/
namespace DiagramEditor

/-- A text as its list of characters. -/
abbrev Text := List Char

/-- A half-open range of byte offsets. The ends of a range that a caller hands
in may be reversed, lie past the end of the text or fall inside a character. -/
structure ByteRange where
  start : Nat
  stop : Nat
deriving DecidableEq, Repr, Inhabited

/-- The range moved `offset` bytes to the right. -/
def ByteRange.shift (range : ByteRange) (offset : Nat) : ByteRange :=
  ⟨range.start + offset, range.stop + offset⟩

/-- The byte at the place lies in the range. -/
def ByteRange.Covers (range : ByteRange) (place : Nat) : Prop :=
  range.start ≤ place ∧ place < range.stop

instance (range : ByteRange) (place : Nat) : Decidable (range.Covers place) :=
  inferInstanceAs (Decidable (_ ∧ _))

namespace Text

/-- The length of the UTF-8 form in bytes. -/
def size : Text → Nat
  | [] => 0
  | c :: rest => c.utf8Size + size rest

/-- The characters that fit whole into the first `n` bytes. -/
def takeBytes : Nat → Text → Text
  | _, [] => []
  | n, c :: rest => if c.utf8Size ≤ n then c :: takeBytes (n - c.utf8Size) rest else []

/-- What `takeBytes` leaves. -/
def dropBytes : Nat → Text → Text
  | _, [] => []
  | n, c :: rest => if c.utf8Size ≤ n then dropBytes (n - c.utf8Size) rest else c :: rest

/-- The greatest character boundary at or before an offset; the end of the text
for an offset past it. -/
def floorBoundary (text : Text) (offset : Nat) : Nat :=
  (text.takeBytes offset).size

/-- An offset between two characters, or at either end of the text. -/
def IsBoundary (text : Text) (offset : Nat) : Prop :=
  text.floorBoundary offset = offset

instance (text : Text) (offset : Nat) : Decidable (text.IsBoundary offset) :=
  inferInstanceAs (Decidable (_ = _))

/-- The characters that lie in a range of boundaries. -/
def slice (text : Text) (range : ByteRange) : Text :=
  (text.dropBytes range.start).takeBytes (range.stop - range.start)

@[simp] theorem size_nil : size [] = 0 := rfl

@[simp] theorem size_cons (c : Char) (rest : Text) :
    size (c :: rest) = c.utf8Size + size rest := rfl

theorem size_append (front back : Text) : size (front ++ back) = front.size + back.size := by
  induction front with
  | nil => simp
  | cons c rest ih => simp [ih, Nat.add_assoc]

/-- Cutting loses nothing. -/
theorem takeBytes_append_dropBytes (n : Nat) (text : Text) :
    text.takeBytes n ++ text.dropBytes n = text := by
  induction text generalizing n with
  | nil => rfl
  | cons c rest ih =>
    unfold takeBytes dropBytes
    split
    · rw [List.cons_append, ih]
    · rfl

theorem size_takeBytes_le (n : Nat) (text : Text) : (text.takeBytes n).size ≤ n := by
  induction text generalizing n with
  | nil => exact Nat.zero_le n
  | cons c rest ih =>
    unfold takeBytes
    split
    · rename_i fits
      have := ih (n - c.utf8Size)
      rw [size_cons]
      omega
    · exact Nat.zero_le n

/-- A text is cut exactly where its first part ends. -/
theorem takeBytes_size_append (front back : Text) :
    (front ++ back).takeBytes front.size = front := by
  induction front with
  | nil =>
    cases back with
    | nil => rfl
    | cons c rest =>
      have := c.utf8Size_pos
      simp only [List.nil_append, size_nil, takeBytes]
      rw [if_neg (by omega)]
  | cons c rest ih =>
    rw [List.cons_append, size_cons, takeBytes, if_pos (Nat.le_add_right _ _),
      Nat.add_sub_cancel_left, ih]

theorem dropBytes_size_append (front back : Text) :
    (front ++ back).dropBytes front.size = back := by
  have whole := takeBytes_append_dropBytes front.size (front ++ back)
  rw [takeBytes_size_append] at whole
  exact List.append_cancel_left whole

/-- The boundaries are the sizes of the text's prefixes. -/
theorem isBoundary_size_append (front back : Text) :
    IsBoundary (front ++ back) front.size := by
  simp only [IsBoundary, floorBoundary, takeBytes_size_append]

end Text
end DiagramEditor

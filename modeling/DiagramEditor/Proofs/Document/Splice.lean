import DiagramEditor.Proofs.Document.Edit
import DiagramEditor.Proofs.Text.Boundary

/-! What a range does to a text. Whatever two numbers a range has, it cuts the text it is
clamped to into three parts, and a splice puts another text in the place of the middle
one; so a splice changes nothing exactly if the middle part is what it puts in place. -/
namespace DiagramEditor

namespace Text

theorem takeBytes_begins (n : Nat) (text : Text) : text.takeBytes n <+: text :=
  ⟨text.dropBytes n, takeBytes_append_dropBytes n text⟩

/-- A text is cut in three by a range, at the boundaries to which the range is clamped. -/
theorem exists_clampRange (text : Text) (range : ByteRange) :
    ∃ front middle back, text = front ++ (middle ++ back) ∧
      text.clampRange range = ⟨front.size, front.size + middle.size⟩ := by
  rcases List.prefix_or_prefix_of_prefix (takeBytes_begins range.start text)
    (takeBytes_begins range.stop text) with ⟨middle, further⟩ | ⟨between, nearer⟩
  · have whole := takeBytes_append_dropBytes range.stop text
    rw [← further, List.append_assoc] at whole
    refine ⟨_, middle, _, whole.symm, ?_⟩
    simp only [clampRange, floorBoundary, ← further, size_append]
    rw [Nat.max_eq_left (Nat.le_add_right _ _)]
  · refine ⟨_, [], _, (takeBytes_append_dropBytes range.start text).symm, ?_⟩
    simp only [clampRange, floorBoundary, ← nearer, size_append]
    rw [Nat.max_eq_right (Nat.le_add_right _ _)]
    rfl

theorem splice_append (front middle back inserted : Text) :
    splice (front ++ (middle ++ back)) ⟨front.size, front.size + middle.size⟩ inserted =
      front ++ (inserted ++ back) := by
  rw [splice, takeBytes_size_append, ← List.append_assoc front middle, ← size_append,
    dropBytes_size_append, List.append_assoc]

theorem splice_clampRange_eq_self {text inserted : Text} {range : ByteRange} :
    text.splice (text.clampRange range) inserted = text ↔
      text.slice (text.clampRange range) = inserted := by
  obtain ⟨front, middle, back, whole, clamped⟩ := exists_clampRange text range
  rw [clamped, whole, splice_append, slice_append, List.append_cancel_left_eq,
    List.append_cancel_right_eq, eq_comm]

theorem clampRange_whole (text : Text) : text.clampRange ⟨0, text.size⟩ = ⟨0, text.size⟩ := by
  have start : text.takeBytes 0 = [] := takeBytes_size_append [] text
  have stop : text.takeBytes text.size = text := by
    simpa using takeBytes_size_append text []
  simp only [clampRange, floorBoundary, start, stop, size_nil, Nat.max_eq_left (Nat.zero_le _)]

theorem slice_whole (text : Text) : text.slice ⟨0, text.size⟩ = text := by
  simpa using slice_append [] text []

theorem splice_whole (text inserted : Text) : text.splice ⟨0, text.size⟩ inserted = inserted := by
  simpa using splice_append [] text [] inserted

end Text

namespace Document

variable {document : Document}

/-- The text behind an edit is the splice, also where the edit finds nothing to do. -/
theorem text_edit (document : Document) (range : ByteRange) (inserted : Text) :
    (document.edit range inserted).1.text =
      document.text.splice (document.text.clampRange range) inserted := by
  by_cases same : document.text.slice (document.text.clampRange range) = inserted
  · rw [edit_of_isNoop (isNoop_edit.mpr same)]
    exact (Text.splice_clampRange_eq_self.mpr same).symm
  · simp only [edit, same, if_false]

theorem text_replaceAll (document : Document) (text : Text) :
    (document.replaceAll text).1.text = text := by
  have spliced : (document.edit ⟨0, document.text.size⟩ text).1.text = text := by
    rw [text_edit, Text.clampRange_whole, Text.splice_whole]
  simp only [replaceAll]
  split <;> exact spliced

theorem isNoop_replaceAll {text : Text} :
    (document.replaceAll text).2.isNoop ↔ text = document.text := by
  have kept : (document.replaceAll text).2.isNoop ↔
      (document.edit ⟨0, document.text.size⟩ text).2.isNoop := by
    simp only [replaceAll]
    split <;> rfl
  rw [kept, isNoop_edit, Text.clampRange_whole, Text.slice_whole, eq_comm]

theorem replaceAll_self (document : Document) :
    document.replaceAll document.text = (document, document.unchanged) := by
  have edited : document.edit ⟨0, document.text.size⟩ document.text =
      (document, document.unchanged) := by
    simp only [edit, Text.clampRange_whole, Text.slice_whole, if_true]
  rw [replaceAll, edited]
  rfl

end Document
end DiagramEditor

import DiagramEditor.Document

/-! What a change does to a document as a whole. A patch without a changed range comes
with the document as it was. -/
namespace DiagramEditor.Document

variable {document : Document}

theorem isNoop_edit {range : ByteRange} {inserted : Text} :
    (document.edit range inserted).2.isNoop ↔
      document.text.slice (document.text.clampRange range) = inserted := by
  by_cases same : document.text.slice (document.text.clampRange range) = inserted
  · simp [edit, same, unchanged, Patch.isNoop]
  · simp [edit, same, Patch.isNoop]

theorem edit_of_isNoop {range : ByteRange} {inserted : Text}
    (noop : (document.edit range inserted).2.isNoop) :
    (document.edit range inserted).1 = document := by
  simp only [edit, isNoop_edit.mp noop, if_true]

theorem replaceAll_of_isNoop {text : Text} (noop : (document.replaceAll text).2.isNoop) :
    (document.replaceAll text).1 = document := by
  by_cases untouched : (document.edit ⟨0, document.text.size⟩ text).2.isNoop
  · simp only [replaceAll, untouched, if_true]
    exact edit_of_isNoop untouched
  · -- The patch of a change that takes place keeps its range when the cursor is put back.
    simp only [replaceAll, untouched] at noop
    exact absurd noop untouched

theorem format_of_isNoop {options : FormatOptions} (noop : (document.format options).2.isNoop) :
    (document.format options).1 = document :=
  replaceAll_of_isNoop noop

theorem version_le_edit (range : ByteRange) (inserted : Text) :
    document.version ≤ (document.edit range inserted).1.version := by
  by_cases same : document.text.slice (document.text.clampRange range) = inserted
  · simp only [edit, same, if_true, Nat.le_refl]
  · simp only [edit, same, if_false, Nat.le_succ]

theorem version_le_replaceAll (text : Text) :
    document.version ≤ (document.replaceAll text).1.version := by
  have spliced : document.version ≤ (document.edit ⟨0, document.text.size⟩ text).1.version :=
    version_le_edit _ _
  simp only [replaceAll]
  split <;> exact spliced

end DiagramEditor.Document

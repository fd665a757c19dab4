import Mathlib.Order.Bounds.Basic
import DiagramEditor.Proofs.Document.Splice
import DiagramEditor.Proofs.Text.Utf8

/-! Edits in bytes. An offset that a caller hands in falls to the greatest boundary between two
characters that it reaches, so an edit cuts the bytes of a text where its characters part, and
what it puts together are again the bytes of a text. -/
namespace DiagramEditor

namespace Text

variable {text front : Text} {offset : Nat}

/-- The offsets between two characters of a text, and at either end of it. -/
def boundaries (text : Text) : Set Nat :=
  {place | ∃ front back, text = front ++ back ∧ place = front.size}

theorem size_le_size_takeBytes (back : Text) (fits : front.size ≤ offset) :
    front.size ≤ ((front ++ back).takeBytes offset).size := by
  induction front generalizing offset with
  | nil => exact Nat.zero_le _
  | cons c more ih =>
    rw [size_cons] at fits
    have behind : size more ≤ offset - c.utf8Size := by omega
    have later := ih behind
    rw [List.cons_append, takeBytes, if_pos (by omega), size_cons, size_cons]
    omega

theorem isGreatest_floorBoundary (text : Text) (offset : Nat) :
    IsGreatest {place | place ∈ text.boundaries ∧ place ≤ min offset text.size}
      (text.floorBoundary offset) := by
  have whole := takeBytes_append_dropBytes offset text
  have within : (text.takeBytes offset).size ≤ text.size := by
    rw [← congrArg size whole, size_append]
    exact Nat.le_add_right _ _
  constructor
  · exact ⟨⟨_, _, whole.symm, rfl⟩, Nat.le_min.mpr ⟨size_takeBytes_le offset text, within⟩⟩
  · rintro _ ⟨⟨front, back, rfl, rfl⟩, reached⟩
    exact size_le_size_takeBytes back (Nat.le_trans reached (Nat.min_le_left _ _))

theorem take_toUtf8_append (front back : Text) :
    (toUtf8 (front ++ back)).take front.size = front.toUtf8 := by
  rw [toUtf8_append, List.take_left' (length_toUtf8 front)]

theorem drop_toUtf8_append (front back : Text) :
    (toUtf8 (front ++ back)).drop front.size = back.toUtf8 := by
  rw [toUtf8_append, List.drop_left' (length_toUtf8 front)]

end Text

namespace Document

/-- A range cuts a text in three, and an edit puts a text in the place of the middle part, unless
that is the text already. -/
theorem exists_edit (document : Document) (range : ByteRange) (inserted : Text) :
    ∃ front middle back, document.text = front ++ (middle ++ back) ∧
      document.text.clampRange range = ⟨front.size, front.size + middle.size⟩ ∧
      (document.edit range inserted).1.text = front ++ (inserted ++ back) ∧
      document.edit range inserted =
        if middle = inserted then (document, document.unchanged)
        else
          let cursor := front.size + inserted.size
          (⟨front ++ (inserted ++ back), ⟨cursor, cursor⟩, document.version + 1⟩,
            ⟨[⟨front.size, cursor⟩], ⟨cursor, cursor⟩, document.version + 1⟩) := by
  obtain ⟨front, middle, back, whole, clamped⟩ := Text.exists_clampRange document.text range
  have target : document.text.slice ⟨front.size, front.size + middle.size⟩ = middle := by
    rw [whole, Text.slice_append]
  have result : document.text.splice ⟨front.size, front.size + middle.size⟩ inserted =
      front ++ (inserted ++ back) := by
    rw [whole, Text.splice_append]
  refine ⟨front, middle, back, whole, clamped, ?_, ?_⟩
  · rw [text_edit, clamped, result]
  · simp only [edit, clamped, target, result]

/-- An edit replaces the bytes between the boundaries to which its two offsets fall, an end before
the start moved up to it. If these bytes are those of the new text nothing happens. -/
theorem edit_splices (document : Document) (range : ByteRange) (inserted : Text) :
    let text := document.text
    let start := text.floorBoundary range.start
    let stop := max (text.floorBoundary range.stop) start
    let cursor := start + inserted.size
    let edited := (document.edit range inserted).1
    let patch := (document.edit range inserted).2
    (∀ offset, IsGreatest {place | place ∈ text.boundaries ∧ place ≤ min offset text.size}
      (text.floorBoundary offset)) ∧
      stop ≤ text.size ∧
      ((text.toUtf8.drop start).take (stop - start) = inserted.toUtf8 →
        edited = document ∧ patch = ⟨[], document.selection, document.version⟩) ∧
      ((text.toUtf8.drop start).take (stop - start) ≠ inserted.toUtf8 →
        edited.selection = ⟨cursor, cursor⟩ ∧ edited.version = document.version + 1 ∧
          patch = ⟨[⟨start, cursor⟩], ⟨cursor, cursor⟩, document.version + 1⟩) ∧
      edited.text.toUtf8 =
        text.toUtf8.take start ++ (inserted.toUtf8 ++ text.toUtf8.drop stop) ∧
      Utf8.decode (text.toUtf8.take start ++ (inserted.toUtf8 ++ text.toUtf8.drop stop)) =
        .ok edited.text ∧
      edited.text.size = text.size - (stop - start) + inserted.size ∧
      edited.text.toUtf8.take start = text.toUtf8.take start ∧
      edited.text.toUtf8.drop cursor = text.toUtf8.drop stop := by
  intro text start stop cursor edited patch
  obtain ⟨front, middle, back, (whole : text = _), clamped, spliced, result⟩ :=
    exists_edit document range inserted
  have first : start = front.size := congrArg ByteRange.start clamped
  have last : stop = front.size + middle.size := congrArg ByteRange.stop clamped
  have size : text.size = front.size + (middle.size + back.size) := by
    rw [whole, Text.size_append, Text.size_append]
  have head : text.toUtf8.take start = front.toUtf8 := by
    rw [first, whole, Text.take_toUtf8_append]
  have target : (text.toUtf8.drop start).take (stop - start) = middle.toUtf8 := by
    rw [first, last, whole, Nat.add_sub_cancel_left, Text.toUtf8_middle]
  have tail : text.toUtf8.drop stop = back.toUtf8 := by
    rw [last, whole, ← Text.size_append, ← List.append_assoc, Text.drop_toUtf8_append]
  have bytes : edited.text.toUtf8 =
      text.toUtf8.take start ++ (inserted.toUtf8 ++ text.toUtf8.drop stop) := by
    rw [spliced, head, tail, Text.toUtf8_append, Text.toUtf8_append]
  refine ⟨Text.isGreatest_floorBoundary text, by omega, fun same => ?_, fun different => ?_, bytes,
    Utf8.decode_eq_ok_iff.mpr bytes.symm, ?_, ?_, ?_⟩
  · have found : middle = inserted := Utf8.toUtf8_injective (target.symm.trans same)
    rw [if_pos found] at result
    exact Prod.mk.inj result
  · have missing : middle ≠ inserted := fun same => different (same ▸ target)
    rw [if_neg missing, ← first] at result
    obtain ⟨behind, told⟩ := Prod.mk.inj result
    exact ⟨congrArg Document.selection behind, congrArg Document.version behind, told⟩
  · rw [spliced, Text.size_append, Text.size_append]
    omega
  · rw [spliced, first, Text.take_toUtf8_append, ← head, first]
  · have behind : cursor = Text.size (front ++ inserted) := by rw [Text.size_append, ← first]
    rw [spliced, tail, behind, ← List.append_assoc, Text.drop_toUtf8_append]

/-- A reversed range with one end inside a character and the other far behind the text, and then
the text between its ends put in its own place. -/
theorem edit_splices_of_reversed :
    let document : Document := ⟨"a\u2192b".toList, ⟨0, 1⟩, 7⟩
    let bytes := document.text.toUtf8
    let patch := (document.edit ⟨18446744073709551615, 2⟩ ['\u00e9']).2
    (bytes.drop 5).take (5 - 5) ≠ Text.toUtf8 ['\u00e9'] ∧
      patch = ⟨[⟨5, 7⟩], ⟨7, 7⟩, 8⟩ ∧
      (bytes.drop 1).take (4 - 1) = Text.toUtf8 ['\u2192'] ∧
      (document.edit ⟨3, 4⟩ ['\u2192']).1 = document := by
  intro document bytes patch
  have inserted : (bytes.drop 5).take (5 - 5) ≠ Text.toUtf8 ['\u00e9'] := by decide
  have same : (bytes.drop 1).take (4 - 1) = Text.toUtf8 ['\u2192'] := by decide
  obtain ⟨-, -, -, changed, -⟩ := edit_splices document ⟨18446744073709551615, 2⟩ ['\u00e9']
  obtain ⟨-, -, kept, -⟩ := edit_splices document ⟨3, 4⟩ ['\u2192']
  exact ⟨inserted, (changed inserted).2.2, same, (kept same).1⟩

end Document
end DiagramEditor

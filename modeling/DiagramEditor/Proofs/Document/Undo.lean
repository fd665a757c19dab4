import DiagramEditor.Proofs.Document.Bytes

/-! Going back. The patch of a change names the place of the new text. That place lies between
two boundaries, so an edit there meets all of the new text and no more of the document; with the
old text put back, the document reads as before. -/
namespace DiagramEditor

namespace Text

theorem clampRange_middle (front middle back : Text) :
    clampRange (front ++ (middle ++ back)) ⟨front.size, front.size + middle.size⟩ =
      ⟨front.size, front.size + middle.size⟩ := by
  have start := isBoundary_size_append front (middle ++ back)
  have stop := isBoundary_add_size front middle back
  rw [IsBoundary] at start stop
  simp only [clampRange, start, stop, Nat.max_eq_left (Nat.le_add_right _ _)]

end Text

/-- A patch tells how to get from one document back to another: a text of the latter, put where
the patch says that something has changed, makes all of the text again, and what that changes is
the range in which the text stood. -/
def Patch.LeadsBack (patch : Patch) (after before : Document) (replaced : Text)
    (place : ByteRange) : Prop :=
  ∃ changed, patch.changed = [changed] ∧
    ¬(after.edit changed replaced).2.isNoop ∧
    (after.edit changed replaced).1.text = before.text ∧
    (after.edit changed replaced).2.changed = [place]

namespace Document

variable {document after : Document} {front middle back inserted : Text}

theorem edit_middle (whole : document.text = front ++ (middle ++ back))
    (new : middle ≠ inserted) :
    document.edit ⟨front.size, front.size + middle.size⟩ inserted =
      (⟨front ++ (inserted ++ back),
          ⟨front.size + inserted.size, front.size + inserted.size⟩, document.version + 1⟩,
        ⟨[⟨front.size, front.size + inserted.size⟩],
          ⟨front.size + inserted.size, front.size + inserted.size⟩, document.version + 1⟩) := by
  simp only [edit, whole, Text.clampRange_middle, Text.slice_append, Text.splice_append, new,
    if_false]

/-- Two texts that differ only in the middle lead to each other. -/
theorem leadsBack_middle {patch : Patch}
    (before : document.text = front ++ (middle ++ back))
    (behind : after.text = front ++ (inserted ++ back)) (new : middle ≠ inserted)
    (changed : patch.changed = [⟨front.size, front.size + inserted.size⟩]) :
    patch.LeadsBack after document middle ⟨front.size, front.size + middle.size⟩ := by
  have returns := edit_middle behind (Ne.symm new)
  refine ⟨_, changed, ?_, ?_, ?_⟩
  · simp [returns, Patch.isNoop]
  · rw [returns, before]
  · rw [returns]

theorem leadsBack_edit {range : ByteRange}
    (changes : ¬(document.edit range inserted).2.isNoop) :
    (document.edit range inserted).2.LeadsBack (document.edit range inserted).1 document
      (document.text.slice (document.text.clampRange range))
      (document.text.clampRange range) := by
  obtain ⟨front, middle, back, whole, clamped, spliced, result⟩ :=
    exists_edit document range inserted
  have target : document.text.slice (document.text.clampRange range) = middle := by
    rw [clamped, whole, Text.slice_append]
  have new : middle ≠ inserted := fun same => changes (isNoop_edit.mpr (target.trans same))
  rw [if_neg new] at result
  rw [target, clamped]
  exact leadsBack_middle whole spliced new (by rw [result])

/-- What replaces the whole text does so by an edit; only the cursor is put elsewhere. -/
theorem leadsBack_replaceAll {text : Text} (changes : ¬(document.replaceAll text).2.isNoop) :
    (document.replaceAll text).2.LeadsBack (document.replaceAll text).1 document document.text
      ⟨0, document.text.size⟩ := by
  have new : document.text ≠ text := fun same => changes (isNoop_replaceAll.mpr same.symm)
  have before : document.text = [] ++ (document.text ++ []) := (List.append_nil _).symm
  have behind : (document.replaceAll text).1.text = [] ++ (text ++ []) := by
    rw [text_replaceAll, List.append_nil, List.nil_append]
  have edited := edit_middle before new
  rw [Text.size_nil, Nat.zero_add, Nat.zero_add] at edited
  have changed : (document.replaceAll text).2.changed = [⟨0, text.size⟩] := by
    rw [replaceAll, edited]
    rfl
  simpa using leadsBack_middle before behind new (by simpa using changed)

/-- Every change is undone by an edit of the one range that its patch names, with the text put
back that stood in the changed range before; and this is a change of just that range. -/
theorem patch_leads_back (document : Document) :
    (∀ range inserted, ¬(document.edit range inserted).2.isNoop →
      (document.edit range inserted).2.LeadsBack (document.edit range inserted).1 document
        (document.text.slice (document.text.clampRange range))
        (document.text.clampRange range)) ∧
    (∀ text, ¬(document.replaceAll text).2.isNoop →
      (document.replaceAll text).2.LeadsBack (document.replaceAll text).1 document document.text
        ⟨0, document.text.size⟩) ∧
    (∀ options, ¬(document.format options).2.isNoop →
      (document.format options).2.LeadsBack (document.format options).1 document document.text
        ⟨0, document.text.size⟩) :=
  ⟨fun _ _ => leadsBack_edit, fun _ => leadsBack_replaceAll, fun _ => leadsBack_replaceAll⟩

/-- A character is deleted at the end by a range that begins inside it and ends far behind the
text. The patch names an empty range, and there the character comes back. -/
theorem patch_leads_back_of_deletion :
    let document : Document := ⟨['a', '\u00e9'], ⟨0, 1⟩, 7⟩
    let (after, patch) := document.edit ⟨2, 18446744073709551615⟩ []
    ¬patch.isNoop ∧ patch.changed = [⟨1, 1⟩] ∧
      (after.edit ⟨1, 1⟩ ['\u00e9']).1.text = document.text ∧
      (after.edit ⟨1, 1⟩ ['\u00e9']).2.changed = [⟨1, 3⟩] := by
  intro document
  have changes : ¬(document.edit ⟨2, 18446744073709551615⟩ []).2.isNoop := by decide
  have named : (document.edit ⟨2, 18446744073709551615⟩ []).2.changed = [⟨1, 1⟩] := by decide
  obtain ⟨changed, same, -, text, place⟩ := (patch_leads_back document).1 _ _ changes
  obtain rfl : ⟨1, 1⟩ = changed := List.singleton_inj.mp (named.symm.trans same)
  exact ⟨changes, named, text, place⟩

end Document
end DiagramEditor

import DiagramEditor.Document.Change
import DiagramEditor.Proofs.Document.Splice

/-! Documents over whole runs. Every kind of change leaves a selection that delimits a piece
of the text, counts a new version exactly if the text is a new one, and comes back with a
patch that tells the truth about all three; so all documents that a fresh one can become
have such a selection. -/
namespace DiagramEditor

variable {document before after : Document} {patch : Patch}

/-- The range delimits a piece of the text: its ends are in order, inside the text, and
between two characters. -/
structure Text.Selects (text : Text) (range : ByteRange) : Prop where
  ordered : range.start ≤ range.stop
  within : range.stop ≤ text.size
  start : text.IsBoundary range.start
  stop : text.IsBoundary range.stop

namespace Text

theorem selects_middle (front middle back : Text) :
    Selects (front ++ (middle ++ back)) ⟨front.size, front.size + middle.size⟩ where
  ordered := Nat.le_add_right _ _
  within := by
    simp only [size_append]
    omega
  start := isBoundary_size_append _ _
  stop := isBoundary_add_size _ _ _

theorem selects_clampRange (text : Text) (range : ByteRange) :
    text.Selects (text.clampRange range) := by
  obtain ⟨front, middle, back, whole, clamped⟩ := exists_clampRange text range
  rw [clamped, whole]
  exact selects_middle front middle back

theorem selects_start (text : Text) : text.Selects ⟨0, 0⟩ :=
  selects_middle [] [] text

theorem selects_stop (text : Text) : text.Selects ⟨text.size, text.size⟩ := by
  have selected := selects_middle text [] []
  rwa [List.append_nil, List.append_nil] at selected

theorem selects_behind (front inserted back : Text) :
    Selects (front ++ (inserted ++ back))
      ⟨front.size + inserted.size, front.size + inserted.size⟩ := by
  have selected := selects_middle (front ++ inserted) [] back
  rwa [size_append, List.append_assoc] at selected

end Text

/-- What a change makes of a document, apart from its patch: the selection delimits a piece
of the new text, and the version is a new one exactly if the text is. -/
structure Document.Follows (before after : Document) : Prop where
  selects : after.text.Selects after.selection
  version : after.version = before.version + if after.text = before.text then 0 else 1

/-- The patch tells what became of the document: it is empty exactly if the text is the
same, with the selection and the version as they were, and it names those behind it. -/
structure Patch.Reports (patch : Patch) (before after : Document) : Prop where
  noop : patch.isNoop ↔ after.text = before.text
  kept : patch.isNoop → after.selection = before.selection ∧ after.version = before.version
  selection : patch.selection = after.selection
  version : patch.version = after.version

namespace Document

theorem follows_self (selects : document.text.Selects document.selection) :
    document.Follows document :=
  ⟨selects, by simp⟩

theorem reports_unchanged (document : Document) : document.unchanged.Reports document document where
  noop := by simp [unchanged, Patch.isNoop]
  kept _ := ⟨rfl, rfl⟩
  selection := rfl
  version := rfl

theorem edit_spec (selects : document.text.Selects document.selection) (range : ByteRange)
    (inserted : Text) :
    document.Follows (document.edit range inserted).1 ∧
      (document.edit range inserted).2.Reports document (document.edit range inserted).1 := by
  by_cases same : document.text.slice (document.text.clampRange range) = inserted
  · simp only [edit, same, if_true]
    exact ⟨follows_self selects, reports_unchanged document⟩
  · have different : document.text.splice (document.text.clampRange range) inserted ≠
        document.text := fun unchanged => same (Text.splice_clampRange_eq_self.mp unchanged)
    obtain ⟨front, middle, back, whole, clamped⟩ := Text.exists_clampRange document.text range
    simp only [edit, same, if_false]
    refine ⟨⟨?_, by simp [different]⟩,
      ⟨by simp [Patch.isNoop, different], fun noop => by simp [Patch.isNoop] at noop, rfl, rfl⟩⟩
    rw [clamped, whole, Text.splice_append]
    exact Text.selects_behind front inserted back

theorem replaceAll_spec (selects : document.text.Selects document.selection) (text : Text) :
    document.Follows (document.replaceAll text).1 ∧
      (document.replaceAll text).2.Reports document (document.replaceAll text).1 := by
  obtain ⟨follows, reports⟩ := edit_spec selects ⟨0, document.text.size⟩ text
  by_cases noop : (document.edit ⟨0, document.text.size⟩ text).2.isNoop
  · simp only [replaceAll, noop, if_true]
    exact ⟨follows, reports⟩
  · simp only [replaceAll, noop]
    exact ⟨⟨Text.selects_start _, follows.version⟩,
      ⟨reports.noop, fun empty => absurd empty noop, rfl, reports.version⟩⟩

theorem change_spec (selects : document.text.Selects document.selection) (next : DocumentChange) :
    document.Follows (document.change next).1 ∧
      ∀ patch ∈ (document.change next).2, patch.Reports document (document.change next).1 := by
  cases next with
  | edit range inserted =>
    obtain ⟨follows, reports⟩ := edit_spec selects range inserted
    refine ⟨follows, ?_⟩
    rintro patch ⟨⟩
    exact reports
  | replaceAll text =>
    obtain ⟨follows, reports⟩ := replaceAll_spec selects text
    refine ⟨follows, ?_⟩
    rintro patch ⟨⟩
    exact reports
  | format options =>
    obtain ⟨follows, reports⟩ := replaceAll_spec selects (formatSource options document.text)
    refine ⟨follows, ?_⟩
    rintro patch ⟨⟩
    exact reports
  | select range =>
    refine ⟨⟨Text.selects_clampRange _ _, by simp [change, select]⟩, ?_⟩
    rintro patch ⟨⟩

/-- Over a run the selection stays in place, and there are no more versions than changes. -/
theorem run_spec (selects : document.text.Selects document.selection)
    (changes : List DocumentChange) :
    (document.run changes).text.Selects (document.run changes).selection ∧
      (document.run changes).version ≤ document.version + changes.length := by
  induction changes generalizing document with
  | nil => exact ⟨selects, Nat.le_refl _⟩
  | cons next more ih =>
    obtain ⟨follows, -⟩ := change_spec selects next
    obtain ⟨selected, versions⟩ := ih follows.selects
    have counted : (document.change next).1.version ≤ document.version + 1 := by
      rw [follows.version]
      split <;> omega
    refine ⟨selected, ?_⟩
    rw [List.length_cons]
    change ((document.change next).1.run more).version ≤ _
    omega

/-- Whatever a fresh document has become, the next change leaves it with a selection in
place and with a patch that tells what it did. -/
theorem run_change (text : Text) (changes : List DocumentChange) (next : DocumentChange) :
    let before := (ofText text).run changes
    let after := (before.change next).1
    before.text.Selects before.selection ∧ before.version ≤ changes.length ∧
      after.text.Selects after.selection ∧
      after.version = before.version + (if after.text = before.text then 0 else 1) ∧
      ∀ patch ∈ (before.change next).2,
        (patch.isNoop ↔ after.text = before.text) ∧
        (patch.isNoop → after.selection = before.selection ∧ after.version = before.version) ∧
        patch.selection = after.selection ∧ patch.version = after.version := by
  intro before after
  have fresh : (ofText text).text.Selects (ofText text).selection := Text.selects_stop text
  obtain ⟨selects, versions⟩ := run_spec fresh changes
  obtain ⟨follows, reports⟩ := change_spec selects next
  have counted : before.version ≤ changes.length := by
    rwa [show (ofText text).version = 0 from rfl, Nat.zero_add] at versions
  refine ⟨selects, counted, follows.selects, follows.version, fun patch returned => ?_⟩
  have told := reports patch returned
  exact ⟨told.noop, told.kept, told.selection, told.version⟩

/-- A selection of which one end falls into a character and the other behind the text; the
same text put in place then leaves it alone. -/
theorem run_change_of_same_text :
    let before := (ofText ['é']).run [.edit ⟨1, 1⟩ ['x'], .select ⟨2, 9⟩]
    let after := (before.change (.replaceAll ['x', 'é'])).1
    before.selection = ⟨1, 3⟩ ∧ before.unchanged ∈ (before.change (.replaceAll ['x', 'é'])).2 ∧
      before.unchanged.isNoop ∧ after.text = before.text ∧
      after.selection = before.selection ∧ after.version = before.version := by
  intro before after
  have returned : before.unchanged ∈ (before.change (.replaceAll ['x', 'é'])).2 := rfl
  have empty : before.unchanged.isNoop := rfl
  obtain ⟨-, -, -, -, told⟩ :=
    run_change ['é'] [.edit ⟨1, 1⟩ ['x'], .select ⟨2, 9⟩] (.replaceAll ['x', 'é'])
  obtain ⟨noop, kept, -⟩ := told before.unchanged returned
  exact ⟨rfl, returned, empty, noop.mp empty, kept empty⟩

end Document
end DiagramEditor

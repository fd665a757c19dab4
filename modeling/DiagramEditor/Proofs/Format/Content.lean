import DiagramEditor.Format.Indent
import DiagramEditor.Proofs.Text.Lines

/-! Formatting keeps the content. The content of a source is the row of its trimmed lines
that are not blank. Written at any depth, with any indent, and cut apart again, these
lines are the content of what was written; so a formatted source has the content of its
source, and formatting it anew gives what the source itself would give. -/
namespace DiagramEditor

variable {options : FormatOptions} {state : IndentState} {source line : Text} {lines : List Text}

/-- Carriage returns and a missing last line leave no trace in the content. -/
theorem contentLines_eq (source : Text) :
    contentLines source = ((source.split '\n').map Text.trim).filter (!·.isEmpty) :=
  Text.map_trim_finishLines _

/-- A line as it stands in a content: something, with no blank around it, on one line. -/
structure IsContentLine (line : Text) : Prop where
  present : line ≠ []
  trimmed : line.trim = line
  unbroken : '\n' ∉ line

theorem isContentLine_of_mem (member : line ∈ contentLines source) : IsContentLine line := by
  rw [contentLines_eq] at member
  obtain ⟨listed, present⟩ := List.mem_filter.mp member
  obtain ⟨piece, cut, rfl⟩ := List.mem_map.mp listed
  refine ⟨by simpa using present, Text.trim_trim piece, ?_⟩
  intro broken
  exact Text.not_mem_of_mem_split cut (Text.mem_of_mem_trim broken)

namespace IndentState

theorem renderLine_eq (options : FormatOptions) (state : IndentState) (line : Text) :
    ∃ count, (state.renderLine options line).1 = List.replicate count ' ' ++ line :=
  ⟨_, rfl⟩

theorem map_trim_renderLines (trimmed : ∀ line ∈ lines, line.trim = line) :
    (renderLines options state lines).map Text.trim = lines := by
  induction lines generalizing state with
  | nil => rfl
  | cons line more ih =>
    obtain ⟨count, written⟩ := renderLine_eq options state line
    rw [renderLines, List.map_cons, written, Text.trim_blank_append (Text.isBlank_replicate count),
      trimmed line List.mem_cons_self, ih (fun other later => trimmed other (.tail _ later))]

theorem exists_of_mem_renderLines {written : Text}
    (member : written ∈ renderLines options state lines) :
    ∃ line ∈ lines, ∃ count, written = List.replicate count ' ' ++ line := by
  induction lines generalizing state with
  | nil => cases member
  | cons line more ih =>
    rcases List.mem_cons.mp member with rfl | later
    · exact ⟨line, List.mem_cons_self, renderLine_eq options state line⟩
    · obtain ⟨other, listed, behind⟩ := ih later
      exact ⟨other, List.mem_cons_of_mem _ listed, behind⟩

theorem newline_not_mem_renderLines (unbroken : ∀ line ∈ lines, '\n' ∉ line) :
    ∀ written ∈ renderLines options state lines, '\n' ∉ written := by
  intro written member
  obtain ⟨line, listed, count, rfl⟩ := exists_of_mem_renderLines member
  simp [unbroken line listed]

/-- Lines written one below the other are cut apart where they were joined. -/
theorem contentLines_join_renderLines (content : ∀ line ∈ lines, IsContentLine line) :
    contentLines (Text.join '\n' (renderLines options state lines)) = lines := by
  cases lines with
  | nil => rfl
  | cons line more =>
    have cut : (Text.join '\n' (renderLines options state (line :: more))).split '\n' =
        renderLines options state (line :: more) :=
      Text.split_join (List.cons_ne_nil _ _)
        (newline_not_mem_renderLines fun other member => (content other member).unbroken)
    have present : ∀ other ∈ line :: more, (!other.isEmpty) = true := by
      intro other member
      simpa using (content other member).present
    rw [contentLines_eq, cut,
      map_trim_renderLines fun other member => (content other member).trimmed,
      List.filter_eq_self.mpr present]

end IndentState

theorem contentLines_formatSource (options : FormatOptions) (source : Text) :
    contentLines (formatSource options source) = contentLines source :=
  IndentState.contentLines_join_renderLines fun _ member => isContentLine_of_mem member

theorem formatSource_congr {other : Text} (same : contentLines source = contentLines other) :
    formatSource options source = formatSource options other := by
  rw [formatSource, same, formatSource]

/-- An earlier formatting leaves no trace in a later one, whatever their indents. -/
theorem formatSource_formatSource (first second : FormatOptions) (source : Text) :
    formatSource second (formatSource first source) = formatSource second source := by
  rw [formatSource, contentLines_formatSource, formatSource]

end DiagramEditor

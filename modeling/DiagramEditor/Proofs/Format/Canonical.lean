import DiagramEditor.Proofs.Format.Content

/-! Formatted sources as canonical forms. The content of a source is left whole by formatting
and decides how the source is formatted, so two sources are formatted alike exactly if they
have the same content. A line may end in any white space that holds a newline, and any white
space may stand around the whole: the content is the same. -/
namespace DiagramEditor

variable {blank gap line : Text}

theorem contentLines_newline (front back : Text) :
    contentLines (front ++ '\n' :: back) = contentLines front ++ contentLines back := by
  simp only [contentLines_eq, Text.split_append_cons, List.map_append, List.filter_append]

theorem contentLines_of_not_mem (unbroken : '\n' ∉ line) :
    contentLines line = [line.trim].filter (!·.isEmpty) := by
  rw [contentLines_eq, Text.split_of_not_mem unbroken, List.map_singleton]

theorem contentLines_blank_append (white : blank.IsBlank) (source : Text) :
    contentLines (blank ++ source) = contentLines source := by
  induction blank with
  | nil => rfl
  | cons c more ih =>
    obtain ⟨first, rest⟩ := Text.isBlank_cons.mp white
    have later := ih rest
    by_cases newline : c = '\n'
    · subst newline
      exact (contentLines_newline [] (more ++ source)).trans later
    · -- The first line below the blank gets one more character, which trimming takes off.
      rw [← later, contentLines_eq, contentLines_eq, List.cons_append, Text.split, if_neg newline]
      have alone : Text.IsBlank [c] := Text.isBlank_cons.mpr ⟨first, by simp [Text.IsBlank]⟩
      cases pieces : Text.split '\n' (more ++ source) with
      | nil => exact absurd pieces (Text.split_ne_nil _ _)
      | cons piece others =>
        have same : Text.trim (c :: piece) = piece.trim := Text.trim_blank_append alone piece
        simp only [List.map_cons, same]

theorem contentLines_of_isBlank (white : blank.IsBlank) : contentLines blank = [] := by
  have alone := contentLines_blank_append white []
  rw [List.append_nil] at alone
  exact alone

/-- A blank that ends an unbroken line, or stands below it. -/
theorem contentLines_append_blank_of_not_mem (white : blank.IsBlank) (unbroken : '\n' ∉ line) :
    contentLines (line ++ blank) = contentLines line := by
  by_cases ends : '\n' ∈ blank
  · obtain ⟨tail, others, rfl, short⟩ := List.eq_append_cons_of_mem ends
    obtain ⟨tailWhite, endWhite⟩ := Text.isBlank_append.mp white
    obtain ⟨-, othersWhite⟩ := Text.isBlank_cons.mp endWhite
    have whole : '\n' ∉ line ++ tail := by simp [unbroken, short]
    rw [← List.append_assoc, contentLines_newline, contentLines_of_isBlank othersWhite,
      List.append_nil, contentLines_of_not_mem whole, contentLines_of_not_mem unbroken,
      Text.trim_append_blank tailWhite]
  · have whole : '\n' ∉ line ++ blank := by simp [unbroken, ends]
    rw [contentLines_of_not_mem whole, contentLines_of_not_mem unbroken,
      Text.trim_append_blank white]

theorem contentLines_append_blank (white : blank.IsBlank) (source : Text) :
    contentLines (source ++ blank) = contentLines source := by
  by_cases broken : '\n' ∈ source
  · obtain ⟨above, last, rfl, unbroken⟩ := Text.exists_last_separator broken
    rw [List.append_assoc, List.cons_append, contentLines_newline, contentLines_newline,
      contentLines_append_blank_of_not_mem white unbroken]
  · exact contentLines_append_blank_of_not_mem white broken

/-- Any white space with a newline in it parts two lines as a newline alone does. -/
theorem contentLines_gap (white : gap.IsBlank) (ends : '\n' ∈ gap) (front back : Text) :
    contentLines (front ++ (gap ++ back)) = contentLines (front ++ '\n' :: back) := by
  obtain ⟨tail, indent, rfl, -⟩ := List.eq_append_cons_of_mem ends
  obtain ⟨tailWhite, endWhite⟩ := Text.isBlank_append.mp white
  obtain ⟨-, indentWhite⟩ := Text.isBlank_cons.mp endWhite
  rw [List.append_assoc, ← List.append_assoc front, List.cons_append, contentLines_newline,
    contentLines_newline, contentLines_append_blank tailWhite,
    contentLines_blank_append indentWhite]

/-- Two sources are formatted alike exactly if their contents are the same, and the content of
a formatted source is that of the source itself. So it makes no difference how lines end, with
carriage returns, blank lines and indents included, nor what white space surrounds them all. -/
theorem formatSource_canonical (options : FormatOptions) (source : Text) :
    (∀ other, formatSource options source = formatSource options other ↔
      contentLines source = contentLines other) ∧
      contentLines (formatSource options source) = contentLines source ∧
      (∀ front gap back : Text, gap.IsBlank → '\n' ∈ gap →
        formatSource options (front ++ (gap ++ back)) =
          formatSource options (front ++ '\n' :: back)) ∧
      ∀ indent tail : Text, indent.IsBlank → tail.IsBlank →
        formatSource options (indent ++ (source ++ tail)) = formatSource options source := by
  refine ⟨?_, contentLines_formatSource options source, ?_, ?_⟩
  · intro other
    constructor
    · intro alike
      have contents := congrArg contentLines alike
      rwa [contentLines_formatSource, contentLines_formatSource] at contents
    · exact formatSource_congr
  · intro front gap back white ends
    exact formatSource_congr (contentLines_gap white ends front back)
  · intro indent tail before behind
    apply formatSource_congr
    rw [contentLines_blank_append before, contentLines_append_blank behind]

/-- Carriage returns, a blank line and a no-break space; and a line of content more. -/
theorem formatSource_canonical_of_crlf :
    let source : Text := "group a\r\n\t\r\n\u00a0x".toList
    let gap : Text := "\r\n\t\r\n\u00a0".toList
    gap.IsBlank ∧ '\n' ∈ gap ∧ source = "group a".toList ++ (gap ++ "x".toList) ∧
      formatSource .standard source = formatSource .standard "group a\nx".toList ∧
      formatSource .standard ("\n ".toList ++ (source ++ "\r\n".toList)) =
        formatSource .standard source ∧
      formatSource .standard source ≠ formatSource .standard "group a\nx\ny".toList := by
  intro source gap
  obtain ⟨alike, -, parted, surrounded⟩ := formatSource_canonical .standard source
  have white : gap.IsBlank := List.all_eq_true.mp (by decide)
  have before : Text.IsBlank "\n ".toList := List.all_eq_true.mp (by decide)
  have behind : Text.IsBlank "\r\n".toList := List.all_eq_true.mp (by decide)
  have ends : '\n' ∈ gap := by decide
  have whole : source = "group a".toList ++ (gap ++ "x".toList) := by decide
  have joined := parted "group a".toList gap "x".toList white ends
  have other : contentLines source ≠ contentLines "group a\nx\ny".toList := by decide
  exact ⟨white, ends, whole, whole ▸ joined,
    surrounded _ _ before behind, mt (alike _).mp other⟩

end DiagramEditor

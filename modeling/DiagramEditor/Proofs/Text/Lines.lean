import DiagramEditor.Proofs.Text.Trim
import DiagramEditor.Text.Lines

/-! Pieces and lines. Cutting a text and joining its pieces are the library's `splitOn`
and `intercalate`. What the end of a line takes off a piece is white space, so trimmed
lines can be read off the pieces between the newlines. -/
namespace DiagramEditor.Text

theorem split_eq_splitOn (separator : Char) (text : Text) :
    text.split separator = text.splitOn separator := by
  induction text with
  | nil => rfl
  | cons c rest ih =>
    rw [List.splitOn_cons_eq_if_modifyHead, ← ih, split]
    by_cases same : c = separator
    · simp [same]
    · cases pieces : split separator rest with
      | nil => exact absurd pieces (split_ne_nil separator rest)
      | cons piece more => simp [same]

theorem join_eq_intercalate (separator : Char) (pieces : List Text) :
    join separator pieces = [separator].intercalate pieces := by
  induction pieces with
  | nil => rfl
  | cons piece more ih =>
    cases more with
    | nil => rw [join, List.intercalate_singleton]
    | cons next others =>
      rw [join, ih, List.intercalate_cons_cons, List.append_assoc]
      rfl

theorem split_append_cons (separator : Char) (front back : Text) :
    (front ++ separator :: back).split separator =
      front.split separator ++ back.split separator := by
  simp only [split_eq_splitOn]
  exact List.splitOn_append_cons_of_beq front back (beq_self_eq_true separator)

theorem split_of_not_mem {separator : Char} {text : Text} (absent : separator ∉ text) :
    text.split separator = [text] := by
  rw [split_eq_splitOn]
  exact List.splitOn_eq_singleton absent

theorem exists_last_separator {separator : Char} {text : Text} (present : separator ∈ text) :
    ∃ front back, text = front ++ separator :: back ∧ separator ∉ back := by
  obtain ⟨behind, before, turned, absent⟩ :=
    List.eq_append_cons_of_mem (List.mem_reverse.mpr present)
  refine ⟨before.reverse, behind.reverse, ?_, by simpa using absent⟩
  rw [← List.reverse_reverse text, turned]
  simp

/-- The last piece is empty just behind a separator, and for want of any character. -/
theorem getLast?_split_eq_nil_iff (separator : Char) (text : Text) :
    (text.split separator).getLast? = some [] ↔ text = [] ∨ text.getLast? = some separator := by
  by_cases present : separator ∈ text
  · obtain ⟨front, back, rfl, absent⟩ := exists_last_separator present
    rw [split_append_cons, split_of_not_mem absent, List.getLast?_concat]
    cases back with
    | nil => simp
    | cons c more =>
      have other : (c :: more).getLast? ≠ some separator :=
        fun ends => absent (List.mem_of_getLast? ends)
      simpa using other
  · have other : text.getLast? ≠ some separator := fun ends => present (List.mem_of_getLast? ends)
    rw [split_of_not_mem present]
    simp [other]

theorem split_append_of_not_mem {separator : Char} {piece : Text} (text : Text)
    (absent : separator ∉ piece) :
    (text ++ piece).split separator =
      (text.split separator).dropLast ++ [((text.split separator).getLast?.getD []) ++ piece] := by
  by_cases present : separator ∈ text
  · obtain ⟨front, back, rfl, clean⟩ := exists_last_separator present
    have whole : separator ∉ back ++ piece := by simp [clean, absent]
    rw [List.append_assoc, List.cons_append, split_append_cons, split_append_cons,
      split_of_not_mem whole, split_of_not_mem clean, List.dropLast_concat, List.getLast?_concat,
      Option.getD_some]
  · have whole : separator ∉ text ++ piece := by simp [present, absent]
    rw [split_of_not_mem whole, split_of_not_mem present]
    rfl

theorem not_mem_of_mem_split {separator : Char} {text piece : Text}
    (member : piece ∈ text.split separator) : separator ∉ piece := by
  induction text generalizing piece with
  | nil => simp_all [split]
  | cons c rest ih =>
    unfold split at member
    split at member
    · rcases List.mem_cons.mp member with rfl | later
      · exact List.not_mem_nil
      · exact ih later
    · rename_i different
      split at member
      · rw [List.mem_singleton.mp member]
        simp [Ne.symm different]
      · rename_i first more pieces
        rw [pieces] at ih
        rcases List.mem_cons.mp member with rfl | later
        · simp [Ne.symm different, ih List.mem_cons_self]
        · exact ih (List.mem_cons_of_mem _ later)

theorem split_join {separator : Char} {pieces : List Text} (nonempty : pieces ≠ [])
    (clean : ∀ piece ∈ pieces, separator ∉ piece) :
    (join separator pieces).split separator = pieces := by
  rw [join_eq_intercalate, split_eq_splitOn, List.splitOn_intercalate separator clean nonempty]

theorem join_append {separator : Char} {pieces others : List Text} (above : pieces ≠ [])
    (below : others ≠ []) :
    join separator (pieces ++ others) =
      join separator pieces ++ separator :: join separator others := by
  induction pieces with
  | nil => exact absurd rfl above
  | cons piece more ih =>
    cases more with
    | nil =>
      cases others with
      | nil => exact absurd rfl below
      | cons next rest => rfl
    | cons next rest =>
      have later := ih (List.cons_ne_nil next rest)
      simp only [List.cons_append, join, List.append_assoc] at later ⊢
      rw [later]

theorem join_eq_nil_iff {separator : Char} {pieces : List Text}
    (present : ∀ piece ∈ pieces, piece ≠ []) : join separator pieces = [] ↔ pieces = [] := by
  cases pieces with
  | nil => exact iff_of_true rfl rfl
  | cons piece more =>
    have first : piece ≠ [] := present piece List.mem_cons_self
    cases more with
    | nil => simpa [join] using first
    | cons next rest => simp [join]

/-- Two rows of pieces are joined each by itself and then to one another, if there is anything of
both. -/
theorem join_append_eq_join {separator : Char} {pieces others : List Text}
    (above : ∀ piece ∈ pieces, piece ≠ []) (below : ∀ piece ∈ others, piece ≠ []) :
    join separator (pieces ++ others) =
      join separator ([join separator pieces, join separator others].filter (!·.isEmpty)) := by
  by_cases nothing : pieces = []
  · subst nothing
    cases joined : join separator others <;> simp [join, joined]
  · by_cases nothing' : others = []
    · subst nothing'
      cases joined : join separator pieces <;> simp [join, joined]
    · have first : join separator pieces ≠ [] := mt (join_eq_nil_iff above).mp nothing
      have second : join separator others ≠ [] := mt (join_eq_nil_iff below).mp nothing'
      rw [join_append nothing nothing']
      simp [first, second, join]

theorem finishLines_eq_self {pieces : List Text} (present : ∀ piece ∈ pieces, piece ≠ [])
    (bare : ∀ piece ∈ pieces, piece.getLast? ≠ some '\r') : finishLines pieces = pieces := by
  fun_induction finishLines pieces with
  | case1 => rfl
  | case2 last empty => exact absurd (List.isEmpty_iff.mp empty) (present last List.mem_cons_self)
  | case3 last _ => rfl
  | case4 line next more ih =>
    have kept : line.dropFinalReturn = line := if_neg (bare line List.mem_cons_self)
    have below := ih (fun other later => present other (List.mem_cons_of_mem _ later))
      (fun other later => bare other (List.mem_cons_of_mem _ later))
    rw [kept, below]

/-- Pieces in which there is something, and no line end, are the lines of what they are joined
to. -/
theorem lines_join {pieces : List Text} (unbroken : ∀ piece ∈ pieces, '\n' ∉ piece)
    (present : ∀ piece ∈ pieces, piece ≠ [])
    (bare : ∀ piece ∈ pieces, piece.getLast? ≠ some '\r') :
    (join '\n' pieces).lines = pieces := by
  by_cases none : pieces = []
  · subst none
    rfl
  · rw [lines, split_join none unbroken, finishLines_eq_self present bare]

theorem trim_dropFinalReturn (line : Text) : line.dropFinalReturn.trim = line.trim := by
  unfold dropFinalReturn
  split
  · rename_i ends
    have white : IsBlank ['\r'] := by simp [IsBlank]; decide
    obtain ⟨front, rfl⟩ := List.getLast?_eq_some_iff.mp ends
    rw [List.dropLast_concat, trim_append_blank white]
  · rfl

/-- A trimmed line that is not empty stands in the same place of a row of pieces. -/
theorem map_trim_finishLines (pieces : List Text) :
    ((finishLines pieces).map trim).filter (!·.isEmpty) =
      (pieces.map trim).filter (!·.isEmpty) := by
  fun_induction finishLines pieces with
  | case1 => rfl
  | case2 last empty =>
    rw [List.isEmpty_iff.mp empty]
    rfl
  | case3 last present => rfl
  | case4 line next more ih =>
    simp only [List.map_cons, trim_dropFinalReturn, List.filter_cons] at ih ⊢
    rw [ih]

end DiagramEditor.Text

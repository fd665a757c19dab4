import DiagramEditor.Proofs.Format.Canonical
import DiagramEditor.Proofs.Format.Depth

/-! Formatting one region below another. A region that never closes more than it has opened is
written below another one as it is by itself, only deeper: by the levels which the region above
leaves open. The depth never meets its bound at zero inside such a region, so the two passes
over it go along with one another, at a constant distance. -/
namespace DiagramEditor

variable {options : FormatOptions} {state : IndentState} {kind : LineKind} {written : Text}
  {lines : List Text} {depth base : Nat}

namespace LineKind

theorem written_add (steady : 0 ≤ (depth : Int) + kind.delta) :
    kind.written (depth + base) = kind.written depth + base := by
  cases kind with
  | opener | other => rfl
  | closer =>
    simp only [delta] at steady
    simp only [written]
    omega

theorem next_add (steady : 0 ≤ (depth : Int) + kind.delta) :
    kind.next (depth + base) = kind.next depth + base := by
  have shallow := next_eq kind depth
  have deep := next_eq kind (depth + base)
  omega

end LineKind

namespace IndentState

theorem renderLines_append (options : FormatOptions) (state : IndentState)
    (front back : List Text) :
    renderLines options state (front ++ back) =
      renderLines options state front ++ renderLines options (state.after front) back := by
  induction front generalizing state with
  | nil => rfl
  | cons line more ih => exact congrArg (_ :: ·) (ih _)

/-- One line of a pass that goes along deeper: what stands before it and the depth behind it. -/
theorem renderLine_add (line : Text)
    (steady : 0 ≤ (depth : Int) + (LineKind.classify line).delta) :
    renderLine options ⟨depth + base⟩ line =
      (List.replicate (options.indentSize * base) ' ' ++ (renderLine options ⟨depth⟩ line).1,
        ⟨(LineKind.classify line).next depth + base⟩) := by
  have deeper : (LineKind.classify line).written (depth + base) * options.indentSize =
      options.indentSize * base +
        (LineKind.classify line).written depth * options.indentSize := by
    rw [LineKind.written_add steady, Nat.add_mul, Nat.mul_comm base, Nat.add_comm]
  simp only [renderLine, deeper, LineKind.next_add steady, ← List.replicate_append_replicate,
    List.append_assoc]

/-- A pass that begins deeper, over lines that never take the other below zero, writes every
line as much deeper. -/
theorem renderLines_add (steady : ∀ count,
      0 ≤ (depth : Int) + LineKind.balance ((lines.map LineKind.classify).take count)) :
    renderLines options ⟨depth + base⟩ lines =
      (renderLines options ⟨depth⟩ lines).map
        (List.replicate (options.indentSize * base) ' ' ++ ·) := by
  induction lines generalizing depth with
  | nil => rfl
  | cons line more ih =>
    have first : 0 ≤ (depth : Int) + (LineKind.classify line).delta := by
      simpa [LineKind.balance] using steady 1
    have later : ∀ count, 0 ≤ ((LineKind.classify line).next depth : Int) +
        LineKind.balance ((more.map LineKind.classify).take count) := by
      intro count
      have level := steady (count + 1)
      rw [List.map_cons, List.take_succ_cons, LineKind.balance, ← Int.add_assoc] at level
      rwa [LineKind.next_eq, Int.max_eq_right first]
    simp only [renderLines, renderLine_add line first, ih later, List.map_cons]
    rfl

theorem ne_nil_of_mem_renderLines (content : ∀ line ∈ lines, IsContentLine line)
    (member : written ∈ renderLines options state lines) : written ≠ [] := by
  obtain ⟨line, listed, count, rfl⟩ := exists_of_mem_renderLines member
  exact List.append_ne_nil_of_right_ne_nil _ (content line listed).present

/-- What is written of a content is read back line by line: no line is empty or ends in a
carriage return. -/
theorem lines_join_renderLines (content : ∀ line ∈ lines, IsContentLine line) :
    (Text.join '\n' (renderLines options state lines)).lines = renderLines options state lines := by
  apply Text.lines_join
  · exact newline_not_mem_renderLines fun line member => (content line member).unbroken
  · exact fun written => ne_nil_of_mem_renderLines content
  · intro written member ends
    obtain ⟨line, listed, count, rfl⟩ := exists_of_mem_renderLines member
    obtain ⟨present, trimmed, -⟩ := content line listed
    have last : line.getLast? = some '\r' := by
      rwa [List.getLast?_append, List.getLast?_eq_some_getLast present, Option.some_or,
        ← List.getLast?_eq_some_getLast present] at ends
    rw [← trimmed] at last
    exact absurd (Text.not_isWhitespace_of_getLast?_trim last) (by decide)

end IndentState

theorem lines_formatSource (options : FormatOptions) (source : Text) :
    (formatSource options source).lines =
      IndentState.renderLines options {} (contentLines source) :=
  IndentState.lines_join_renderLines fun _ => isContentLine_of_mem

/-- A source below another is formatted as the part above is by itself, and below it the lower
part as it is by itself, at the depth that the part above leaves, if no beginning of the lower
part closes more than it opens. If the part above leaves no block open, the two are joined. -/
theorem formatSource_newline (options : FormatOptions) (front back : Text)
    (steady : LineKind.NeverDips ((contentLines back).map LineKind.classify)) :
    let depth := ((contentLines front).foldl
      (fun state line => (IndentState.renderLine options state line).2) {}).depth
    (formatSource options (front ++ '\n' :: back)).lines =
        (formatSource options front).lines ++
          (formatSource options back).lines.map
            (List.replicate (options.indentSize * depth) ' ' ++ ·) ∧
      (depth = 0 → formatSource options (front ++ '\n' :: back) =
        Text.join '\n'
          ([formatSource options front, formatSource options back].filter (!·.isEmpty))) := by
  intro depth
  have parts : IndentState.renderLines options {} (contentLines (front ++ '\n' :: back)) =
      IndentState.renderLines options {} (contentLines front) ++
        (IndentState.renderLines options {} (contentLines back)).map
          (List.replicate (options.indentSize * depth) ' ' ++ ·) := by
    have steady : ∀ count, 0 ≤ ((0 : Nat) : Int) +
        LineKind.balance (((contentLines back).map LineKind.classify).take count) := by
      intro count
      rw [Int.natCast_zero, Int.zero_add]
      exact steady count
    have deeper : IndentState.renderLines options ⟨0 + depth⟩ (contentLines back) = _ :=
      IndentState.renderLines_add steady
    rw [Nat.zero_add] at deeper
    rw [contentLines_newline, IndentState.renderLines_append, ← deeper]
    rfl
  constructor
  · rw [lines_formatSource, lines_formatSource, lines_formatSource, parts]
  · intro closed
    have joined : IndentState.renderLines options {} (contentLines (front ++ '\n' :: back)) =
        IndentState.renderLines options {} (contentLines front) ++
          IndentState.renderLines options {} (contentLines back) := by
      rw [parts, closed]
      simp
    rw [formatSource, joined]
    apply Text.join_append_eq_join
    · exact fun written => IndentState.ne_nil_of_mem_renderLines fun _ => isContentLine_of_mem
    · exact fun written => IndentState.ne_nil_of_mem_renderLines fun _ => isContentLine_of_mem

/-- A block below one that is still open, and below a line that closes none, each time over a
carriage return and a blank line. -/
theorem formatSource_newline_of_open_block :
    let opened : Text := "subgraph a\r".toList
    let closed : Text := "end\r".toList
    let back : Text := "\n group b\r\n x\nend\n\ty".toList
    LineKind.NeverDips ((contentLines back).map LineKind.classify) ∧
      (formatSource .standard (opened ++ '\n' :: back)).lines =
        ["subgraph a".toList, "  group b".toList, "    x".toList, "  end".toList,
          "  y".toList] ∧
      formatSource .standard (closed ++ '\n' :: back) =
        "end\ngroup b\n  x\nend\ny".toList := by
  intro opened closed back
  have steady : LineKind.NeverDips ((contentLines back).map LineKind.classify) := by decide
  obtain ⟨deeper, -⟩ := formatSource_newline .standard opened back steady
  obtain ⟨-, joined⟩ := formatSource_newline .standard closed back steady
  exact ⟨steady, deeper.trans (by decide), (joined (by decide)).trans (by decide)⟩

end DiagramEditor

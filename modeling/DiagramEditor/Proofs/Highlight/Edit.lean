import DiagramEditor.Proofs.Document.Splice
import DiagramEditor.Proofs.Syntax.Locality

/-! Highlighting behind an edit. The lines that the edit touches are highlighted anew; the
spans in front of them stay, and the spans behind them move by as much as the text grew
or shrank. -/
namespace DiagramEditor

/-- The range moved to the right, or to the left by a negative distance. -/
def ByteRange.move (range : ByteRange) (distance : Int) : ByteRange :=
  ⟨(range.start + distance).toNat, (range.stop + distance).toNat⟩

def HighlightSpan.move (span : HighlightSpan) (distance : Int) : HighlightSpan :=
  ⟨span.range.move distance, span.category⟩

@[simp] theorem HighlightSpan.start_move (span : HighlightSpan) (distance : Nat) :
    (span.move distance).range.start = span.range.start + distance := rfl

@[simp] theorem HighlightSpan.stop_move (span : HighlightSpan) (distance : Nat) :
    (span.move distance).range.stop = span.range.stop + distance := rfl

theorem HighlightSpan.move_move (span : HighlightSpan) (first : Nat) (second : Int)
    (inside : 0 ≤ first + second) :
    (span.move first).move second = span.move (first + second) := by
  simp only [move, ByteRange.move, mk.injEq, ByteRange.mk.injEq, and_true]
  omega

namespace Text

/-- The place behind the last newline in front of an offset; the start of the text if
there is none. -/
def lineStart (text : Text) (offset : Nat) : Nat :=
  size ((text.takeBytes offset).rdropWhile (· ≠ '\n'))

/-- The place of the first newline at an offset or behind it; the end of the text if there
is none. -/
def lineStop (text : Text) (offset : Nat) : Nat :=
  offset + size ((text.dropBytes offset).takeWhile (· ≠ '\n'))

end Text

section Seams

open Syntax

variable {front back : Text}

theorem highlight_append (seam : Seam front back) :
    highlight (front ++ back) = highlight front ++ (highlight back).map (·.move front.size) := by
  have moved (token : Token) : (token.shift front.size).highlightSpan =
      token.highlightSpan.move front.size := rfl
  simp only [highlight, tokenize_append seam, List.filter_append, List.map_append,
    List.filter_map, List.map_map, Function.comp_def, moved]
  rfl

theorem highlight_bounds {text : Text} {span : HighlightSpan} (member : span ∈ highlight text) :
    span.range.start < span.range.stop ∧ span.range.stop ≤ text.size := by
  obtain ⟨token, styled, rfl⟩ := List.mem_map.mp member
  have bounds := (tokenize_cuts text).bounds token (List.mem_filter.mp styled).1
  simp only [Token.highlightSpan]
  omega

theorem filter_stop_le_highlight_append (seam : Seam front back) :
    (highlight (front ++ back)).filter (·.range.stop ≤ front.size) = highlight front := by
  have within (span : HighlightSpan) (member : span ∈ highlight front) :
      span.range.stop ≤ front.size := (highlight_bounds member).2
  have beyond (span : HighlightSpan) (member : span ∈ (highlight back).map (·.move front.size)) :
      ¬ span.range.stop ≤ front.size := by
    obtain ⟨inner, listed, rfl⟩ := List.mem_map.mp member
    have present := (highlight_bounds listed).1
    rw [HighlightSpan.stop_move]
    omega
  rw [highlight_append seam, List.filter_append,
    List.filter_eq_self.mpr fun span member => decide_eq_true (within span member),
    List.filter_eq_nil_iff.mpr fun span member => by simpa using beyond span member,
    List.append_nil]

theorem filter_le_start_highlight_append (seam : Seam front back) :
    (highlight (front ++ back)).filter (front.size ≤ ·.range.start) =
      (highlight back).map (·.move front.size) := by
  have before (span : HighlightSpan) (member : span ∈ highlight front) :
      ¬ front.size ≤ span.range.start := by
    have bounds := highlight_bounds member
    omega
  have behind (span : HighlightSpan) (member : span ∈ (highlight back).map (·.move front.size)) :
      front.size ≤ span.range.start := by
    obtain ⟨inner, -, rfl⟩ := List.mem_map.mp member
    rw [HighlightSpan.start_move]
    exact Nat.le_add_left _ _
  rw [highlight_append seam, List.filter_append,
    List.filter_eq_nil_iff.mpr fun span member => by simpa using before span member,
    List.filter_eq_self.mpr fun span member => decide_eq_true (behind span member),
    List.nil_append]

/-- Where lines are replaced by others, the spans above them stay and those below move. -/
theorem highlight_replace {above below : Text} (top : ∀ text, Seam above text)
    (bottom : ∀ text, Seam text below) (lines others : Text) {growth : Int}
    (grown : lines.size + growth = others.size) :
    highlight (above ++ (others ++ below)) =
      (highlight (above ++ (lines ++ below))).filter (·.range.stop ≤ above.size) ++
        (highlight others).map (·.move above.size) ++
        ((highlight (above ++ (lines ++ below))).filter
          (above.size + lines.size ≤ ·.range.start)).map (·.move growth) := by
  have first := filter_stop_le_highlight_append (top (lines ++ below))
  have last := filter_le_start_highlight_append (bottom (above ++ lines))
  have moved (span : HighlightSpan) :
      (span.move (above.size + lines.size : Nat)).move growth =
        (span.move others.size).move above.size := by
    rw [span.move_move _ _ (by omega), span.move_move _ _ (by omega)]
    congr 1
    omega
  rw [Text.size_append, List.append_assoc] at last
  rw [first, last, highlight_append (top _), highlight_append (bottom _)]
  simp only [List.map_append, List.map_map, Function.comp_def, moved, List.append_assoc]

end Seams

/-- The parts of a text around a range: the lines above those that it touches, what stands
around the range on these lines, and the lines below. -/
theorem Text.exists_touched_lines (front middle back : Text) :
    ∃ above before after below, front = above ++ before ∧ back = after ++ below ∧
      (∀ text, Syntax.Seam above text) ∧ (∀ text, Syntax.Seam text below) ∧
      lineStart (front ++ (middle ++ back)) front.size = above.size ∧
      lineStop (front ++ (middle ++ back)) (front.size + middle.size) =
        front.size + middle.size + after.size := by
  refine ⟨front.rdropWhile (· ≠ '\n'), front.rtakeWhile (· ≠ '\n'), back.takeWhile (· ≠ '\n'),
    back.dropWhile (· ≠ '\n'), List.rdropWhile_append_rtakeWhile.symm,
    List.takeWhile_append_dropWhile.symm, Syntax.seam_rdropWhile front,
    fun text => Syntax.seam_dropWhile text back, ?_, ?_⟩
  · rw [lineStart, takeBytes_size_append]
  · rw [lineStop, ← size_append, ← List.append_assoc, dropBytes_size_append]

/-- Behind an edit only the lines that it touches are highlighted anew. -/
theorem Document.highlight_edit (document : Document) (range : ByteRange) (inserted : Text) :
    let target := document.text.clampRange range
    let start := document.text.lineStart target.start
    let stop := document.text.lineStop target.stop
    let growth : Int := inserted.size - (target.stop - target.start)
    let edited := (document.edit range inserted).1
    start ≤ stop + growth ∧
      edited.highlight =
        document.highlight.filter (·.range.stop ≤ start) ++
          (DiagramEditor.highlight (edited.text.slice ⟨start, (stop + growth).toNat⟩)).map
            (·.move start) ++
          (document.highlight.filter (stop ≤ ·.range.start)).map (·.move growth) := by
  intro target start stop growth edited
  obtain ⟨front, middle, back, whole, clamped⟩ := Text.exists_clampRange document.text range
  obtain ⟨above, before, after, below, frontLines, backLines, top, bottom, first, last⟩ :=
    Text.exists_touched_lines front middle back
  have old : document.text = above ++ ((before ++ (middle ++ after)) ++ below) := by
    simp only [whole, frontLines, backLines, List.append_assoc]
  have new : edited.text = above ++ ((before ++ (inserted ++ after)) ++ below) := by
    rw [text_edit, clamped, whole, Text.splice_append]
    simp only [frontLines, backLines, List.append_assoc]
  have startEq : start = above.size := by
    simp only [start, target, clamped, whole]
    exact first
  have stopEq : stop = above.size + Text.size (before ++ (middle ++ after)) := by
    simp only [stop, target, clamped, whole]
    rw [last, frontLines]
    simp only [Text.size_append]
    omega
  have grown : (Text.size (before ++ (middle ++ after)) : Int) + growth =
      Text.size (before ++ (inserted ++ after)) := by
    simp only [growth, target, clamped, Text.size_append]
    omega
  have reach : (stop + growth).toNat =
      above.size + Text.size (before ++ (inserted ++ after)) := by
    omega
  refine ⟨by omega, ?_⟩
  rw [reach, startEq, stopEq]
  simp only [highlight, new, old, Text.slice_append]
  exact highlight_replace top bottom _ _ grown

end DiagramEditor

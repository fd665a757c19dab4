import DiagramEditor.Highlight.Span
import DiagramEditor.Proofs.Syntax.FirstToken

/-! What lies between the spans. The spans of a source say nothing of its plain text, and need
not: a plain token is one character, so whoever takes each character outside the spans for a
token by itself has the tokens of the source again. -/
namespace DiagramEditor

open Syntax (Cuts Token tokenize tokenize_cuts)

variable {source front rest text : Text} {category : Category} {c : Char} {offset : Nat}
  {tokens : List Token} {spans : List HighlightSpan} {span : HighlightSpan}

/-- A plain token for each character of a text that stands at an offset. -/
def plainTokens (offset : Nat) : Text → List Token
  | [] => []
  | c :: rest =>
    ⟨.plain, [c], ⟨offset, offset + c.utf8Size⟩⟩ :: plainTokens (offset + c.utf8Size) rest

/-- The tokens of a source from an offset on, as the spans there tell them: each span is a token,
and each character in front of a span or behind the last one is a plain token by itself. -/
def fillGaps (source : Text) (offset : Nat) : List HighlightSpan → List Token
  | [] => plainTokens offset (source.dropBytes offset)
  | span :: more =>
    plainTokens offset (source.slice ⟨offset, span.range.start⟩) ++
      ⟨span.category, source.slice span.range, span.range⟩ ::
        fillGaps source span.range.stop more

/-- The spans of the tokens that are not plain. -/
def styledSpans (tokens : List Token) : List HighlightSpan :=
  (tokens.filter (·.category.isStyled)).map (·.highlightSpan)

theorem Category.isStyled_iff : category.isStyled ↔ category ≠ .plain := by
  cases category <;> decide

theorem styledSpans_cons (token : Token) (more : List Token) :
    styledSpans (token :: more) =
      if token.category.isStyled then token.highlightSpan :: styledSpans more
      else styledSpans more := by
  rw [styledSpans, List.filter_cons]
  split <;> rfl

section Filling

theorem fillGaps_of_gap
    (beyond : ∀ span ∈ spans.head?, front.size + c.utf8Size ≤ span.range.start) :
    fillGaps (front ++ c :: rest) front.size spans =
      ⟨.plain, [c], ⟨front.size, front.size + c.utf8Size⟩⟩ ::
        fillGaps (front ++ c :: rest) (front.size + c.utf8Size) spans := by
  have here : Text.dropBytes front.size (front ++ c :: rest) = c :: rest :=
    Text.dropBytes_size_append front (c :: rest)
  have behind : Text.dropBytes (front.size + c.utf8Size) (front ++ c :: rest) = rest := by
    have whole := Text.dropBytes_size_append (front ++ [c]) rest
    rwa [Text.size_append, List.append_assoc] at whole
  cases spans with
  | nil => simp only [fillGaps, here, behind, plainTokens]
  | cons span more =>
    have fits := beyond span rfl
    have room : c.utf8Size ≤ span.range.start - front.size := by omega
    simp only [fillGaps, Text.slice, here, behind, Text.takeBytes, if_pos room, plainTokens,
      List.cons_append, Nat.sub_sub]

theorem fillGaps_of_span :
    fillGaps (front ++ (text ++ rest)) front.size
        (⟨⟨front.size, front.size + text.size⟩, category⟩ :: spans) =
      ⟨category, text, ⟨front.size, front.size + text.size⟩⟩ ::
        fillGaps (front ++ (text ++ rest)) (front.size + text.size) spans := by
  have none : Text.slice (front ++ (text ++ rest)) ⟨front.size, front.size⟩ = [] :=
    Text.slice_append front [] (text ++ rest)
  rw [fillGaps, none, Text.slice_append]
  rfl

theorem le_start_of_mem_styledSpans (cut : Cuts offset text tokens)
    (member : span ∈ styledSpans tokens) : offset ≤ span.range.start := by
  obtain ⟨token, styled, rfl⟩ := List.mem_map.mp member
  exact (cut.bounds token (List.mem_filter.mp styled).1).1

/-- Any pieces of a text come back from the spans of those that are not plain, if each plain one
is a single character. -/
theorem fillGaps_styledSpans (cut : Cuts offset rest tokens) (start : offset = front.size)
    (single : ∀ token ∈ tokens, token.category = .plain → ∃ c, token.text = [c]) :
    fillGaps (front ++ rest) offset (styledSpans tokens) = tokens := by
  induction cut generalizing front with
  | @done offset =>
    subst start
    have nothing : Text.dropBytes front.size (front ++ []) = [] :=
      Text.dropBytes_size_append front []
    exact congrArg (plainTokens front.size) nothing
  | @next offset token rest more _ place cut ih =>
    subst start
    obtain ⟨category, text, range⟩ := token
    obtain rfl : range = ⟨front.size, front.size + text.size⟩ := place
    have later := ih (Text.size_append front text).symm
      fun other member => single other (List.mem_cons_of_mem _ member)
    rw [List.append_assoc] at later
    rw [styledSpans_cons]
    by_cases plain : category = .plain
    · subst plain
      obtain ⟨c, rfl⟩ : ∃ c, text = [c] := single _ List.mem_cons_self rfl
      have beyond : ∀ span ∈ (styledSpans more).head?,
          front.size + c.utf8Size ≤ span.range.start := by
        intro span first
        exact le_start_of_mem_styledSpans cut (List.mem_of_head? first)
      exact (fillGaps_of_gap beyond).trans (congrArg _ later)
    · rw [if_pos (Category.isStyled_iff.mpr plain)]
      exact fillGaps_of_span.trans (congrArg _ later)

end Filling

theorem exists_text_eq_singleton {token : Token} (member : token ∈ tokenize source)
    (plain : token.category = .plain) : ∃ c, token.text = [c] := by
  rcases Syntax.exists_hasPlace member with ⟨place, rfl⟩ | ⟨above, front, behind, below, placed⟩
  · exact ⟨'\n', rfl⟩
  · have first := placed.first
    generalize token.text = text at first ⊢
    rw [plain] at first
    cases first with
    | @plain c => exact ⟨c, rfl⟩

/-- A span marks a piece of the source: not nothing, not across a character or the end of a line,
and not plain text. -/
structure HighlightSpan.Marks (span : HighlightSpan) (source : Text) : Prop where
  nonempty : span.range.start < span.range.stop
  start : source.IsBoundary span.range.start
  stop : source.IsBoundary span.range.stop
  styled : span.category ≠ .plain
  unbroken : '\n' ∉ source.slice span.range

theorem marks_of_mem_highlight (member : span ∈ highlight source) : span.Marks source := by
  obtain ⟨token, held, rfl⟩ := List.mem_map.mp member
  obtain ⟨listed, styled⟩ := List.mem_filter.mp held
  have cut := tokenize_cuts source
  have stands : token.StandsIn ([] ++ source) := cut.standsIn rfl token listed
  have different := Category.isStyled_iff.mp styled
  have unbroken := Syntax.newline_not_mem_of_ne_plain listed different
  rw [stands.text] at unbroken
  exact ⟨(cut.bounds token listed).2.1, stands.start, stands.stop, different, unbroken⟩

/-- The spans of a source mark pieces of it, each behind the one before. They are all there is to
know of its tokens: with a plain token for each character in front of them, between them and
behind them, they are the tokens of the source. -/
theorem fillGaps_highlight (source : Text) :
    (∀ span ∈ highlight source, span.Marks source) ∧
      ((highlight source).Pairwise fun first second =>
        first.range.start < second.range.start ∧ first.range.stop ≤ second.range.start) ∧
      fillGaps source 0 (highlight source) = tokenize source := by
  have cut := tokenize_cuts source
  refine ⟨fun span => marks_of_mem_highlight, ?_, ?_⟩
  · have apart : (tokenize source).Pairwise fun first second =>
        first.span.start < second.span.start ∧ first.span.stop ≤ second.span.start := by
      refine cut.pairwise.imp_of_mem fun {first second} listed _ behind => ⟨?_, behind⟩
      have bounds := cut.bounds first listed
      omega
    rw [highlight, List.pairwise_map]
    exact apart.sublist List.filter_sublist
  · have filled : fillGaps ([] ++ source) 0 (styledSpans (tokenize source)) = tokenize source :=
      fillGaps_styledSpans cut rfl fun token => exists_text_eq_singleton
    exact filled

/-- A quote that opens no string, a name that fails at its colon, and two gaps that go on over the
end of a line. -/
theorem fillGaps_highlight_of_failed_name :
    let source : Text := "\u00e9\"12:\n end \u00e9".toList
    let number : HighlightSpan := ⟨⟨3, 5⟩, .number⟩
    let keyword : HighlightSpan := ⟨⟨7, 11⟩, .keyword⟩
    highlight source = [number, keyword] ∧ keyword.Marks source ∧
      number.range.stop ≤ keyword.range.start ∧
      fillGaps source 0 [number, keyword] = tokenize source := by
  intro source number keyword
  have spans : highlight source = [number, keyword] := by decide +kernel
  obtain ⟨marks, apart, filled⟩ := fillGaps_highlight source
  rw [spans] at marks apart filled
  refine ⟨spans, marks keyword (by simp), ?_, filled⟩
  exact (List.pairwise_pair.mp apart).2

end DiagramEditor

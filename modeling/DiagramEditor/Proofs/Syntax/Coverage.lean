import Mathlib.Data.List.Pairwise
import DiagramEditor.Proofs.Syntax.Scan

/-! Scanning loses nothing. Cutting a line into tokens, and a source into lines, each
leave nonempty pieces that stand one behind the other and make up the whole; the two
cuts compose, since pieces of a part, moved to where the part stands, are pieces of
the whole. -/
namespace DiagramEditor.Syntax

/-- The spans follow one another from `start` to `stop`, and none is empty. -/
def Contiguous (start stop : Nat) : List Token → Prop
  | [] => start = stop
  | token :: more =>
    token.span.start = start ∧ start < token.span.stop ∧ Contiguous token.span.stop stop more

theorem Contiguous.exists_covers {start stop place : Nat} {tokens : List Token}
    (covered : Contiguous start stop tokens) (above : start ≤ place) (below : place < stop) :
    ∃ token ∈ tokens, token.span.Covers place := by
  induction tokens generalizing start with
  | nil =>
    have same : start = stop := covered
    omega
  | cons token more ih =>
    obtain ⟨first, -, later⟩ := covered
    rcases Nat.lt_or_ge place token.span.stop with here | further
    · exact ⟨token, List.mem_cons_self, by omega, here⟩
    · obtain ⟨other, member, covers⟩ := ih later further
      exact ⟨other, List.mem_cons_of_mem _ member, covers⟩

/-- The token is the piece of the source that its span delimits, in characters and in
bytes, and the span does not cut through a character. -/
structure Token.StandsIn (token : Token) (source : Text) : Prop where
  start : source.IsBoundary token.span.start
  stop : source.IsBoundary token.span.stop
  text : token.text = source.slice token.span
  bytes : token.text.toUtf8 =
    (source.toUtf8.drop token.span.start).take (token.span.stop - token.span.start)

/-- The tokens are a text that begins at `offset`, cut into nonempty pieces. -/
inductive Cuts : Nat → Text → List Token → Prop where
  | done {offset : Nat} : Cuts offset [] []
  | next {offset : Nat} {token : Token} {rest : Text} {more : List Token} :
      token.text ≠ [] → token.span = ⟨offset, offset + token.text.size⟩ →
      Cuts (offset + token.text.size) rest more → Cuts offset (token.text ++ rest) (token :: more)

namespace Cuts

variable {offset : Nat} {text front back : Text} {tokens more : List Token}

theorem append (first : Cuts offset front tokens) (last : Cuts (offset + front.size) back more) :
    Cuts offset (front ++ back) (tokens ++ more) := by
  induction first with
  | done => exact last
  | next nonempty span _ ih =>
    rw [List.append_assoc]
    refine .next nonempty span (ih ?_)
    rwa [Text.size_append, ← Nat.add_assoc] at last

theorem shift (cut : Cuts offset text tokens) (distance : Nat) :
    Cuts (offset + distance) text (tokens.map (·.shift distance)) := by
  induction cut with
  | done => exact .done
  | @next offset token rest more nonempty span _ ih =>
    have moved : (token.shift distance).span =
        ⟨offset + distance, offset + distance + token.text.size⟩ := by
      simp only [Token.shift, span, ByteRange.shift, Nat.add_right_comm]
    rw [Nat.add_right_comm] at ih
    change Cuts (offset + distance) ((token.shift distance).text ++ rest) _
    exact .next nonempty moved ih

/-- What the first piece takes off, and that the others begin behind it. -/
theorem of_cons {token : Token} (cut : Cuts offset text (token :: more)) :
    token.text ≠ [] ∧ token.span = ⟨offset, offset + token.text.size⟩ ∧
      ∃ rest, text = token.text ++ rest ∧ Cuts (offset + token.text.size) rest more := by
  generalize tokens_eq : token :: more = tokens at cut
  cases cut with
  | done => cases tokens_eq
  | next nonempty span cut =>
    cases tokens_eq
    exact ⟨nonempty, span, _, rfl, cut⟩

theorem flatMap_text (cut : Cuts offset text tokens) : tokens.flatMap Token.text = text := by
  induction cut with
  | done => rfl
  | next _ _ _ ih => rw [List.flatMap_cons, ih]

theorem contiguous (cut : Cuts offset text tokens) :
    Contiguous offset (offset + text.size) tokens := by
  induction cut with
  | done => rfl
  | next nonempty span _ ih =>
    have := Text.size_pos nonempty
    rw [Text.size_append, ← Nat.add_assoc]
    simp only [Contiguous, span, ih, and_true, true_and]
    omega

theorem length_le (cut : Cuts offset text tokens) : tokens.length ≤ text.length := by
  induction cut with
  | done => exact Nat.le_refl _
  | next nonempty _ _ ih =>
    have := List.length_pos_iff.mpr nonempty
    rw [List.length_append, List.length_cons]
    omega

theorem bounds (cut : Cuts offset text tokens) : ∀ token ∈ tokens,
    offset ≤ token.span.start ∧ token.span.start < token.span.stop ∧
      token.span.stop ≤ offset + text.size := by
  induction cut with
  | done => simp
  | @next offset first rest more nonempty span _ ih =>
    have := Text.size_pos nonempty
    intro token member
    rw [Text.size_append]
    rcases List.mem_cons.mp member with rfl | later
    · simp only [span]
      omega
    · have further := ih token later
      omega

theorem pairwise (cut : Cuts offset text tokens) :
    tokens.Pairwise fun first second => first.span.stop ≤ second.span.start := by
  induction cut with
  | done => exact .nil
  | next _ span cut ih =>
    refine .cons (fun other member => ?_) ih
    have bounds := cut.bounds other member
    simp only [span]
    omega

theorem disjoint (cut : Cuts offset text tokens) {first second : Token} (member : first ∈ tokens)
    (listed : second ∈ tokens) (different : first ≠ second) :
    first.span.stop ≤ second.span.start ∨ second.span.stop ≤ first.span.start := by
  let Apart (first second : Token) : Prop :=
    first.span.stop ≤ second.span.start ∨ second.span.stop ≤ first.span.start
  have symmetric : Std.Symm Apart := ⟨fun _ _ => Or.symm⟩
  have apart : tokens.Pairwise Apart := cut.pairwise.imp Or.inl
  exact apart.forall member listed different

theorem standsIn (cut : Cuts offset back tokens) (start : offset = front.size) :
    ∀ token ∈ tokens, token.StandsIn (front ++ back) := by
  induction cut generalizing front with
  | done => simp
  | @next offset token rest more _ span _ ih =>
    subst start
    intro other member
    rcases List.mem_cons.mp member with rfl | later
    · constructor <;> simp only [span, Nat.add_sub_cancel_left]
      · exact Text.isBoundary_size_append _ _
      · exact Text.isBoundary_add_size _ _ _
      · exact (Text.slice_append _ _ _).symm
      · exact (Text.toUtf8_middle _ _ _).symm
    · rw [← List.append_assoc]
      exact ih (Text.size_append _ _).symm other later

end Cuts

namespace LineScanner

theorem tokens_cuts (scanner : LineScanner) :
    Cuts scanner.position scanner.rest scanner.tokens := by
  fun_induction tokens scanner with
  | case1 scanner finished =>
    rw [next?_eq_none finished]
    exact .done
  | case2 scanner token behind step ih =>
    obtain ⟨nonempty, whole, span, stop⟩ := next?_cuts step
    rw [whole]
    rw [stop] at span ih
    exact .next nonempty span ih

end LineScanner

theorem tokenizeLine_cuts (line : Text) : Cuts 0 line (tokenizeLine line) :=
  (LineScanner.ofLine line).tokens_cuts

theorem newlineToken_cuts (offset : Nat) : Cuts offset ['\n'] [newlineToken offset] := by
  change Cuts offset ((newlineToken offset).text ++ []) _
  exact .next (List.cons_ne_nil _ _) rfl .done

/-- The lines are cut one by one, each moved to where it stands. -/
theorem tokenizeLines_cuts (offset : Nat) (lines : List Text) :
    Cuts offset (Text.join '\n' lines) (tokenizeLines offset lines) := by
  have placed (offset : Nat) (line : Text) :
      Cuts offset line ((tokenizeLine line).map (·.shift offset)) := by
    simpa only [Nat.zero_add] using (tokenizeLine_cuts line).shift offset
  induction lines generalizing offset with
  | nil => exact .done
  | cons line more ih =>
    cases more with
    | nil => exact placed offset line
    | cons next others =>
      exact (placed offset line).append ((newlineToken_cuts _).append (ih _))

theorem tokenize_cuts (source : Text) : Cuts 0 source (tokenize source) := by
  have cut := tokenizeLines_cuts 0 (source.split '\n')
  rwa [Text.join_split] at cut

/-- Tokens cover their source from end to end, each in its place. The last part says
that a scanner's step is never cut short: a match has a character, and all of its
characters are there. -/
theorem tokenize_lossless (source : Text) :
    Contiguous 0 source.size (tokenize source) ∧
      (∀ token ∈ tokenize source, token.StandsIn source) ∧
      (tokenize source).flatMap Token.text = source ∧
      ∀ atLineStart c more, 0 < (classifyStart atLineStart (c :: more)).2 ∧
        (classifyStart atLineStart (c :: more)).2 ≤ (c :: more).length := by
  have cut := tokenize_cuts source
  have covered : Contiguous 0 source.size (tokenize source) := by
    simpa only [Nat.zero_add] using cut.contiguous
  have placed : ∀ token ∈ tokenize source, token.StandsIn ([] ++ source) := cut.standsIn rfl
  exact ⟨covered, placed, cut.flatMap_text, classifyStart_bounds⟩

end DiagramEditor.Syntax

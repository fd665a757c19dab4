import Mathlib.Data.List.DropRight
import DiagramEditor.Proofs.Syntax.Coverage
import DiagramEditor.Proofs.Text.Lines

/-! Tokens do not cross lines. Each line is scanned by itself, so the tokens of a source are
those of its two parts, wherever it is parted at the start or at the end of a line; the
tokens of the back part are only moved to where that part stands. -/
namespace DiagramEditor.Syntax

variable {front back : Text}

theorem Token.shift_shift (token : Token) (first second : Nat) :
    (token.shift first).shift second = token.shift (first + second) := by
  simp only [Token.shift, ByteRange.shift, Nat.add_assoc]

theorem Token.shift_zero (token : Token) : token.shift 0 = token := rfl

theorem newlineToken_shift (offset distance : Nat) :
    (newlineToken offset).shift distance = newlineToken (offset + distance) := by
  simp only [newlineToken, Token.shift, ByteRange.shift, Nat.add_right_comm]

theorem tokenizeLines_add (offset distance : Nat) (lines : List Text) :
    tokenizeLines (offset + distance) lines =
      (tokenizeLines offset lines).map (·.shift distance) := by
  induction lines generalizing offset with
  | nil => rfl
  | cons line more ih =>
    have moved : (tokenizeLine line).map (·.shift (offset + distance)) =
        ((tokenizeLine line).map (·.shift offset)).map (·.shift distance) := by
      simp only [List.map_map, Function.comp_def, Token.shift_shift]
    cases more with
    | nil => exact moved
    | cons next others =>
      simp only [tokenizeLines, List.map_append, List.map_cons, newlineToken_shift, moved, ← ih,
        Nat.add_right_comm]

theorem tokenizeLines_append (offset : Nat) {above below : List Text} (first : above ≠ [])
    (last : below ≠ []) :
    tokenizeLines offset (above ++ below) =
      tokenizeLines offset above ++ newlineToken (offset + Text.size (Text.join '\n' above)) ::
        tokenizeLines (offset + Text.size (Text.join '\n' above) + 1) below := by
  induction above generalizing offset with
  | nil => exact absurd rfl first
  | cons line more ih =>
    cases more with
    | nil =>
      cases below with
      | nil => exact absurd rfl last
      | cons next others => rfl
    | cons next others =>
      have stop : offset + Text.size (Text.join '\n' (line :: next :: others)) =
          offset + line.size + 1 + Text.size (Text.join '\n' (next :: others)) := by
        have newline : Char.utf8Size '\n' = 1 := rfl
        rw [Text.join, Text.size_append, Text.size_cons, newline]
        omega
      have later := ih (offset + line.size + 1) (List.cons_ne_nil _ _)
      rw [stop, List.cons_append, List.cons_append, tokenizeLines, ← List.cons_append, later]
      simp only [tokenizeLines, List.append_assoc, List.cons_append]

theorem tokenize_newline (front back : Text) :
    tokenize (front ++ '\n' :: back) =
      tokenize front ++ newlineToken front.size ::
        (tokenize back).map (·.shift (front.size + 1)) := by
  have moved := tokenizeLines_add 0 (front.size + 1) (back.split '\n')
  rw [tokenize, Text.split_append_cons,
    tokenizeLines_append 0 (Text.split_ne_nil _ _) (Text.split_ne_nil _ _), Text.join_split,
    Nat.zero_add]
  rw [Nat.zero_add] at moved
  rw [moved, tokenize, tokenize]

/-- No line goes on from the front part into the back part. -/
inductive Seam : Text → Text → Prop where
  | start {back : Text} : Seam [] back
  | stop {front : Text} : Seam front []
  | behind {front back : Text} : Seam (front ++ ['\n']) back
  | before {front back : Text} : Seam front ('\n' :: back)

theorem seam_rdropWhile (front back : Text) : Seam (front.rdropWhile (· ≠ '\n')) back := by
  rcases List.eq_nil_or_concat' (front.rdropWhile (· ≠ '\n')) with empty | ⟨lines, c, whole⟩
  · rw [empty]
    exact .start
  · have present : front.rdropWhile (· ≠ '\n') ≠ [] := whole ▸ List.concat_ne_nil c lines
    have last := List.rdropWhile_last_not (· ≠ '\n') front present
    simp only [whole, List.getLast_concat] at last
    obtain rfl : c = '\n' := by simpa using last
    rw [whole]
    exact .behind

theorem seam_dropWhile (front back : Text) : Seam front (back.dropWhile (· ≠ '\n')) := by
  have first := List.head?_dropWhile_not (· ≠ '\n') back
  cases rest : back.dropWhile (· ≠ '\n') with
  | nil => exact .stop
  | cons c more =>
    rw [rest] at first
    obtain rfl : c = '\n' := by simpa using first
    exact .before

theorem tokenize_append (seam : Seam front back) :
    tokenize (front ++ back) = tokenize front ++ (tokenize back).map (·.shift front.size) := by
  have empty : tokenize [] = [] := by
    rw [tokenize, Text.split, tokenizeLines, tokenizeLine, LineScanner.ofLine,
      LineScanner.tokens_nil, List.map_nil]
  cases seam with
  | start => simp [empty, Token.shift_zero]
  | stop => simp [empty]
  | @behind front =>
    have newline : Char.utf8Size '\n' = 1 := rfl
    rw [List.append_assoc, List.singleton_append, tokenize_newline, tokenize_newline, empty,
      Text.size_append]
    simp [newline]
  | @before _ back =>
    have moved := tokenize_newline [] back
    rw [List.nil_append, empty, List.nil_append] at moved
    rw [tokenize_newline, moved]
    simp [newlineToken_shift, Token.shift_shift, Nat.add_comm 1]

end DiagramEditor.Syntax

import DiagramEditor.Proofs.Syntax.SourceLine

/-! Tokens asked for one at a time. A caller that has a line in hand asks for the token at its
start, then for the one behind that token, and so on to the end of the line. What it collects
are the tokens of the line, so a source may be scanned line by line, each line moved to where
it begins, with a token for the newline behind each line but the last. -/
namespace DiagramEditor.Syntax

variable {line : Text} {position : Nat} {state after : ScanState} {token : Token}

/-- Between two parts of a line a token is asked for at the start of the second. -/
theorem scanToken?_append (front rest : Text) (state : ScanState) :
    scanToken? (front ++ rest) front.size state =
      (⟨front.size, rest, state⟩ : LineScanner).next?.map fun (token, behind) =>
        (token, behind.state) := by
  simp only [scanToken?, LineScanner.at?, if_pos (Text.isBoundary_size_append front rest),
    Text.dropBytes_size_append, Option.bind_some]

/-- A token is given only between two parts of the line, and it begins the second. -/
theorem exists_next?_of_scanToken? (given : scanToken? line position state = some (token, after)) :
    ∃ front rest behind, line = front ++ rest ∧ position = front.size ∧
      (⟨front.size, rest, state⟩ : LineScanner).next? = some (token, behind) ∧
        behind.state = after := by
  by_cases boundary : line.IsBoundary position
  · have whole := Text.takeBytes_append_dropBytes position line
    have start : Text.size (line.takeBytes position) = position := boundary
    have step := scanToken?_append (line.takeBytes position) (line.dropBytes position) state
    rw [whole, start, given] at step
    obtain ⟨⟨first, behind⟩, scanned, same⟩ := Option.map_eq_some_iff.mp step.symm
    obtain ⟨rfl, rfl⟩ := Prod.mk.inj same
    exact ⟨_, _, behind, whole.symm, start.symm, by rwa [start], rfl⟩
  · simp [scanToken?, LineScanner.at?, boundary] at given

theorem scanToken?_bounds (given : scanToken? line position state = some (token, after)) :
    position < token.span.stop ∧ token.span.stop ≤ line.size := by
  obtain ⟨front, rest, behind, rfl, rfl, step, -⟩ := exists_next?_of_scanToken? given
  obtain ⟨nonempty, whole, span, stop⟩ := LineScanner.next?_cuts step
  have further := Text.size_pos nonempty
  have parts := Text.size_append token.text behind.rest
  rw [← whole] at parts
  simp only [span, stop, Text.size_append] at parts ⊢
  omega

/-- The tokens that a caller collects who asks for the token at a position, then for the one
behind it with the state that came along, until there is none. -/
def scanTokens (line : Text) (position : Nat) (state : ScanState) : List Token :=
  match _given : scanToken? line position state with
  | none => []
  | some (token, after) => token :: scanTokens line token.span.stop after
termination_by line.size - position
decreasing_by
  have := scanToken?_bounds _given
  omega

theorem scanTokens_of_none (missing : scanToken? line position state = none) :
    scanTokens line position state = [] := by
  rw [scanTokens]
  split
  · rfl
  · rename_i given
    cases given.symm.trans missing

theorem scanTokens_of_some (given : scanToken? line position state = some (token, after)) :
    scanTokens line position state = token :: scanTokens line token.span.stop after := by
  rw [scanTokens]
  split
  · rename_i missing
    cases missing.symm.trans given
  · rename_i first behind again
    cases again.symm.trans given
    rfl

theorem scanTokens_append {front rest : Text} (scanner : LineScanner)
    (stands : scanner = ⟨front.size, rest, state⟩) :
    scanTokens (front ++ rest) front.size state = scanner.tokens := by
  fun_induction LineScanner.tokens scanner generalizing front rest state with
  | case1 scanner finished =>
    subst stands
    exact scanTokens_of_none (by rw [scanToken?_append, finished]; rfl)
  | case2 scanner token behind step ih =>
    subst stands
    obtain ⟨-, whole, span, stop⟩ := LineScanner.next?_cuts step
    have given : scanToken? (front ++ rest) front.size state = some (token, behind.state) := by
      rw [scanToken?_append, step]
      rfl
    have onward : behind = ⟨Text.size (front ++ token.text), behind.rest, behind.state⟩ := by
      rw [Text.size_append, ← stop]
    have position : token.span.stop = Text.size (front ++ token.text) := by
      rw [span, Text.size_append, ← stop]
    have later := ih onward
    rw [scanTokens_of_some given, position, ← later, List.append_assoc, ← whole]

theorem scanTokens_eq_tokenizeLine (line : Text) : scanTokens line 0 {} = tokenizeLine line := by
  have start : LineScanner.ofLine line = ⟨Text.size [], line, {}⟩ := rfl
  exact scanTokens_append (LineScanner.ofLine line) start

/-- Where a line begins: behind the lines above it, each with its newline. -/
def lineStart : List Text → Nat → Nat
  | above :: below, index + 1 => above.size + 1 + lineStart below index
  | _, _ => 0

/-- The tokens that are collected from a line, moved to where the line begins, and behind them
the token of the newline, unless the line is the last. -/
def tokensOfLine (lines : List Text) (index : Nat) (line : Text) : List Token :=
  (scanTokens line 0 {}).map (·.shift (lineStart lines index)) ++
    if index + 1 < lines.length then [newlineToken (lineStart lines index + line.size)] else []

theorem tokensOfLine_cons_succ (above : Text) (lines : List Text) (index : Nat) (line : Text) :
    tokensOfLine (above :: lines) (index + 1) line =
      (tokensOfLine lines index line).map (·.shift (above.size + 1)) := by
  have start : lineStart (above :: lines) (index + 1) =
      lineStart lines index + (above.size + 1) := Nat.add_comm _ _
  have moved : (scanTokens line 0 {}).map (·.shift (lineStart lines index + (above.size + 1))) =
      ((scanTokens line 0 {}).map (·.shift (lineStart lines index))).map
        (·.shift (above.size + 1)) := by
    simp only [List.map_map, Function.comp_def, Token.shift_shift]
  simp only [tokensOfLine, start, moved, List.length_cons, Nat.add_lt_add_iff_right,
    List.map_append]
  split
  · rw [List.map_singleton, newlineToken_shift, Nat.add_right_comm]
  · rfl

theorem tokenizeLines_eq_mapIdx (lines : List Text) :
    tokenizeLines 0 lines = (lines.mapIdx (tokensOfLine lines)).flatten := by
  induction lines with
  | nil => rfl
  | cons line more ih =>
    cases more with
    | nil => simp [tokenizeLines, tokensOfLine, scanTokens_eq_tokenizeLine, lineStart]
    | cons next others =>
      have first : tokensOfLine (line :: next :: others) 0 line =
          (tokenizeLine line).map (·.shift 0) ++ [newlineToken line.size] := by
        simp [tokensOfLine, scanTokens_eq_tokenizeLine, lineStart]
      have below : ((next :: others).mapIdx fun index =>
          tokensOfLine (line :: next :: others) (index + 1)).flatten =
            tokenizeLines (line.size + 1) (next :: others) := by
        have moved := tokenizeLines_add 0 (line.size + 1) (next :: others)
        rw [Nat.zero_add] at moved
        rw [moved, ih, List.map_flatten]
        simp only [List.mapIdx_eq_zipIdx_map, List.map_map, Function.comp_def,
          tokensOfLine_cons_succ]
      rw [List.mapIdx_cons, List.flatten_cons, first, below, List.append_assoc]
      simp only [tokenizeLines, Nat.zero_add, List.singleton_append]

/-- A newline parts the tokens of a source; on each line the tokens are those that are collected
one at a time; and those of all lines, one line after the other, are the tokens of the source. -/
theorem tokenize_line_by_line :
    (∀ front back : Text, tokenize (front ++ '\n' :: back) =
      tokenize front ++ newlineToken front.size ::
        (tokenize back).map (·.shift (front.size + 1))) ∧
      (∀ line : Text, '\n' ∉ line → tokenize line = scanTokens line 0 {}) ∧
      ∀ source : Text,
        let lines := source.split '\n'
        Text.join '\n' lines = source ∧ (∀ line ∈ lines, '\n' ∉ line) ∧
          tokenize source = (lines.mapIdx (tokensOfLine lines)).flatten := by
  refine ⟨tokenize_newline, fun line single => ?_, fun source => ?_⟩
  · rw [tokenize_of_not_mem single, scanTokens_eq_tokenizeLine]
  · exact ⟨Text.join_split _ _, fun line => Text.not_mem_of_mem_split, tokenizeLines_eq_mapIdx _⟩

/-- A line that opens with a keyword behind an indent of two bytes, and the last line of a source
which ends in a newline. -/
theorem tokenize_line_by_line_of_indent :
    let line : Text := "\u00a0end \"\u00e9".toList
    let lines := Text.split '\n' (line ++ ['\n'])
    '\n' ∉ line ∧ tokenize line = scanTokens line 0 {} ∧ [] ∈ lines ∧ '\n' ∉ ([] : Text) := by
  intro line lines
  obtain ⟨-, collected, pieces⟩ := tokenize_line_by_line
  obtain ⟨-, clean, -⟩ := pieces (line ++ ['\n'])
  have single : '\n' ∉ line := by decide
  have last : [] ∈ lines := by decide
  exact ⟨single, collected line single, last, clean [] last⟩

end DiagramEditor.Syntax

import DiagramEditor.Highlight.Screen
import DiagramEditor.Proofs.Syntax.SourceLine
import DiagramEditor.Proofs.Text.Run

/-! Coloured output as a terminal shows it. Each escape sequence that is written is read back
as it was meant, and text without escape characters is printed as it is; so what is shown of a
coloured source is the source itself, each token in the colour of its class. -/
namespace DiagramEditor.Terminal

open Syntax (Token tokenize tokenize_cuts)

variable {foreground? next? : Option Rgb} {source text behind rest : Text} {c : Char}
  {tokens : List Token} {offset : Nat}

theorem skipWord?_append (word behind : Text) : skipWord? word (word ++ behind) = some behind := by
  have begins : word.isPrefixOf (word ++ behind) :=
    List.isPrefixOf_iff_prefix.mpr (List.prefix_append word behind)
  rw [skipWord?, if_pos begins, List.drop_left]

theorem skipWord?_cons_of_ne {first : Char} (word : Text) (other : c ≠ first) :
    skipWord? (first :: word) (c :: rest) = none := by
  have missed : ¬(first :: word).isPrefixOf (c :: rest) := by
    rw [List.isPrefixOf_iff_prefix, List.cons_prefix_cons]
    exact fun begins => other begins.1.symm
  rw [skipWord?, if_neg missed]

theorem channel?_decimal (value : UInt8) (stop : c.isDigit = false) (rest : Text) :
    channel? (decimal value.toNat ++ c :: rest) = some (value, c :: rest) := by
  have digits := Text.isDigit_of_mem_toDigits value.toNat
  have reads : (Nat.toDigits 10 value.toNat).foldl
      (fun value c => 10 * value + (c.toNat - '0'.toNat)) 0 = value.toNat :=
    Nat.ofDigitChars_toDigits (by decide) (by decide)
  have fits : ¬255 < value.toNat := Nat.not_lt.mpr (Nat.le_of_lt_succ value.toNat_lt)
  have present : (Nat.toDigits 10 value.toNat).isEmpty = false := by
    rw [List.isEmpty_eq_false_iff]
    exact Nat.toDigits_ne_nil
  have bounded : (c :: rest).head?.any Char.isDigit = false := stop
  simp only [channel?, decimal, Text.takeWhile_run digits bounded,
    Text.dropWhile_run digits bounded, reads, present, fits, decide_false, Bool.or_self,
    Bool.false_eq_true, if_false, UInt8.ofNat_toNat]

theorem sequence?_cons_of_ne (other : c ≠ escapeChar) : sequence? (c :: rest) = none := by
  rw [sequence?, reset, skipWord?_cons_of_ne _ other]
  simp only [skipWord?_cons_of_ne _ other]
  rfl

theorem sequence?_reset (behind : Text) : sequence? (reset ++ behind) = some (none, behind) := by
  rw [sequence?, skipWord?_append]

theorem sequence?_setForeground (color : Rgb) (behind : Text) :
    sequence? (setForeground color ++ behind) = some (some color, behind) := by
  have noReset (rest : Text) :
      skipWord? reset (escapeChar :: ("[38;2;".toList ++ rest)) = none := by
    simp [skipWord?, reset, List.isPrefixOf]
  have opens (rest : Text) : skipWord? (escapeChar :: "[38;2;".toList)
      (escapeChar :: ("[38;2;".toList ++ rest)) = some rest := skipWord?_append _ rest
  have closes (c : Char) (rest : Text) : skipWord? [c] (c :: rest) = some rest :=
    skipWord?_append [c] rest
  have written : setForeground color ++ behind =
      escapeChar :: ("[38;2;".toList ++ (decimal color.red.toNat ++ ';' ::
        (decimal color.green.toNat ++ ';' :: (decimal color.blue.toNat ++ 'm' :: behind)))) := by
    simp [setForeground]
  rw [written, sequence?, noReset]
  simp only [opens, closes, Option.bind_eq_bind, Option.bind_some,
    channel?_decimal _ (show (some ';').any Char.isDigit = false from rfl),
    channel?_decimal _ (show (some 'm').any Char.isDigit = false from rfl)]

theorem display_of_sequence? (found : sequence? text = some (next?, behind)) :
    display foreground? text = display next? behind := by
  rw [display]
  split
  · rename_i again
    cases again.symm.trans found
    rfl
  · rename_i missing
    cases missing.symm.trans found

theorem display_nil (foreground? : Option Rgb) : display foreground? [] = ([], foreground?) := by
  rw [display]
  split
  · rename_i found
    cases found
  · rfl

theorem display_cons (other : c ≠ escapeChar) (foreground? : Option Rgb) (rest : Text) :
    display foreground? (c :: rest) =
      (⟨c, foreground?⟩ :: (display foreground? rest).1, (display foreground? rest).2) := by
  rw [display]
  split
  · rename_i found
    cases (sequence?_cons_of_ne other).symm.trans found
  · rfl

/-- Text without an escape character is printed as it is, and leaves the colour alone. -/
theorem display_append (clean : escapeChar ∉ text) (foreground? : Option Rgb) (behind : Text) :
    display foreground? (text ++ behind) =
      (text.map (⟨·, foreground?⟩) ++ (display foreground? behind).1,
        (display foreground? behind).2) := by
  induction text with
  | nil => rfl
  | cons c rest ih =>
    obtain ⟨other, clean⟩ := not_or.mp (mt List.mem_cons.mpr clean)
    rw [List.cons_append, display_cons (Ne.symm other), ih clean, List.map_cons, List.cons_append]

/-- A token is shown in its colour, from no colour to no colour. -/
theorem display_writeToken (theme : Theme) {token : Token} (clean : escapeChar ∉ token.text)
    (behind : Text) :
    display none (writeToken theme token ++ behind) =
      (cells theme token ++ (display none behind).1, (display none behind).2) := by
  rw [writeToken, cells]
  cases theme.color? token.category with
  | none => exact display_append clean none behind
  | some color =>
    simp only [List.append_assoc]
    rw [display_of_sequence? (sequence?_setForeground color _), display_append clean,
      display_of_sequence? (sequence?_reset behind)]

theorem display_writeTokens (theme : Theme) (clean : ∀ token ∈ tokens, escapeChar ∉ token.text) :
    display none (tokens.flatMap (writeToken theme)) = (tokens.flatMap (cells theme), none) := by
  induction tokens with
  | nil => exact display_nil none
  | cons token more ih =>
    obtain ⟨first, later⟩ := List.forall_mem_cons.mp clean
    rw [List.flatMap_cons, display_writeToken theme first, ih later, List.flatMap_cons]

theorem character_cells (theme : Theme) (token : Token) :
    (cells theme token).map Cell.character = token.text := by
  simp [cells, Function.comp_def]

theorem length_cells (theme : Theme) (token : Token) :
    (cells theme token).length = token.text.length :=
  List.length_map _

/-- Each character of a text that is cut into tokens has the colour of the token over it. -/
theorem exists_token_over (theme : Theme) (cut : Syntax.Cuts offset text tokens) {front : Text}
    (whole : text = front ++ c :: behind) :
    ∃ token ∈ tokens, token.span.start ≤ offset + front.size ∧
      offset + front.size < token.span.stop ∧
      (tokens.flatMap (cells theme))[front.length]? = some ⟨c, theme.color? token.category⟩ := by
  induction cut generalizing front with
  | done => simp at whole
  | @next offset token rest more nonempty span cut ih =>
    have beyond (inner : Text) (further : front = token.text ++ inner)
        (below : rest = inner ++ c :: behind) : ∃ inside ∈ token :: more,
          inside.span.start ≤ offset + front.size ∧ offset + front.size < inside.span.stop ∧
            ((token :: more).flatMap (cells theme))[front.length]? =
              some ⟨c, theme.color? inside.category⟩ := by
      obtain ⟨inside, later, start, stop, color⟩ := ih below
      rw [further, Text.size_append, ← Nat.add_assoc]
      refine ⟨inside, List.mem_cons_of_mem _ later, start, stop, ?_⟩
      rw [List.flatMap_cons, List.length_append, ← length_cells theme token,
        List.getElem?_append_right (Nat.le_add_right _ _), Nat.add_sub_cancel_left, color]
    rcases List.append_eq_append_iff.mp whole with ⟨inner, further, below⟩ | ⟨inner, parted, tail⟩
    · exact beyond inner further below
    · cases inner with
      | nil => exact beyond [] (by simpa using parted.symm) tail.symm
      | cons d inner =>
        obtain ⟨rfl, -⟩ := List.cons.inj tail
        have width := c.utf8Size_pos
        refine ⟨token, List.mem_cons_self, ?_, ?_, ?_⟩
        · rw [span]
          exact Nat.le_add_right _ _
        · rw [span, parted, Text.size_append, Text.size_cons]
          dsimp only
          omega
        · rw [List.flatMap_cons, cells, parted]
          simp

/-- What a terminal shows of the coloured form of a source: the characters of the source in
their order, each in the colour of the token over it. No newline is printed in a colour, and
none is active at the end. -/
theorem display_writeHighlighted (theme : Theme) (clean : escapeChar ∉ source) :
    let shown := display none (writeHighlighted theme source)
    shown.1 = (tokenize source).flatMap (cells theme) ∧
      shown.1.map Cell.character = source ∧
      (∀ (front : Text) (c : Char) (back : Text), source = front ++ c :: back →
        ∃ token ∈ tokenize source, token.span.start ≤ front.size ∧
          front.size < token.span.stop ∧
          shown.1[front.length]? = some ⟨c, theme.color? token.category⟩) ∧
      (∀ cell ∈ shown.1, cell.character = '\n' → cell.foreground? = none) ∧
      shown.2 = none := by
  have cut := tokenize_cuts source
  have whole : (tokenize source).flatMap Token.text = source := cut.flatMap_text
  have inner : ∀ token ∈ tokenize source, escapeChar ∉ token.text := by
    intro token member escape
    apply clean
    rw [← whole]
    exact List.mem_flatMap.mpr ⟨token, member, escape⟩
  dsimp only
  rw [writeHighlighted, display_writeTokens theme inner]
  refine ⟨rfl, ?_, ?_, ?_, rfl⟩
  · simp only [List.map_flatMap, character_cells, whole]
  · intro front c back split
    simpa only [Nat.zero_add] using exists_token_over theme cut split
  · intro cell printed newline
    obtain ⟨token, member, inside⟩ := List.mem_flatMap.mp printed
    obtain ⟨c, held, rfl⟩ := List.mem_map.mp inside
    obtain rfl : c = '\n' := newline
    -- Only a plain token holds a newline, and plain text has no colour.
    have plain : token.category = .plain := by
      by_contra styled
      exact Syntax.newline_not_mem_of_ne_plain member styled held
    simp only [plain, Theme.color?]

theorem display_writeHighlighted_of_unclosed :
    let source : Text := "graph \"é\nend".toList
    escapeChar ∉ source ∧
      (display none (writeHighlighted .monokai source)).1.map Cell.character = source ∧
      (display none (writeHighlighted .monokai source)).2 = none := by
  have clean : escapeChar ∉ "graph \"é\nend".toList := by decide
  obtain ⟨-, characters, -, -, last⟩ := display_writeHighlighted .monokai clean
  exact ⟨clean, characters, last⟩

end DiagramEditor.Terminal

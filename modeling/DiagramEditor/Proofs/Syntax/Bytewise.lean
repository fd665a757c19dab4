import Mathlib.Data.List.Find
import DiagramEditor.Proofs.Syntax.Border
import DiagramEditor.Proofs.Syntax.Stepwise
import DiagramEditor.Proofs.Text.Bytewise

/-! The scanner by bytes is the scanner by characters, and all of its cuts succeed. The rules see
the same words in the bytes of a text as in the text; only a string is longer there. A keyword
ends where its ASCII characters end. So each width is that of some characters, and the offset
behind it is one to cut at. -/
namespace DiagramEditor.Syntax

variable {rest word line indent : Text} {length position : Nat} {state after : ScanState}
  {token : Token}

section Rules

namespace Rule

theorem toNat_delimiter_lt (quote : Quote) : quote.delimiter.toNat < 0x80 := by
  cases quote <;> decide

theorem ascii_of_mem_connectors (listed : word ∈ connectors) : ∀ c ∈ word, c.toNat < 0x80 := by
  have all : connectors.all (·.all (·.toNat < 0x80)) := by decide
  intro c member
  exact of_decide_eq_true (List.all_eq_true.mp (List.all_eq_true.mp all word listed) c member)

theorem Accepts.ascii {rule : Rule} (accepted : rule.Accepts word)
    (bare : ∀ quote, rule ≠ .quoted quote) : ∀ c ∈ word, c.toNat < 0x80 := by
  cases accepted with
  | operator listed => exact ascii_of_mem_connectors listed
  | bracket listed =>
    intro c member
    rw [List.mem_singleton.mp member]
    exact isAscii_brackets _ (List.contains_iff_mem.mpr listed)
  | quoted => exact absurd rfl (bare _)
  | qualifiedName _ scope _ name =>
    intro c member
    rcases List.mem_append.mp member with left | right
    · exact isAscii_isWordChar c (scope c left)
    · rcases List.mem_cons.mp right with rfl | qualified
      · decide
      · exact isAscii_isQualifiedChar c (name c qualified)
  | number _ digits => exact fun c member => Text.isAscii_isDigit c (digits c member)

theorem connector?_bytewise (rest : Text) : connector? rest.bytewise = connector? rest :=
  List.find?_congr fun _ listed =>
    Text.isPrefixOf_bytewise (ascii_of_mem_connectors listed) rest

theorem qualifiedLength?_bytewise (rest : Text) :
    qualifiedLength? rest.bytewise = qualifiedLength? rest := by
  have scope := Text.takeWhile_bytewise_of_isAscii isAscii_isWordChar rest
  have behind := Text.dropWhile_bytewise isAscii_isWordChar.uniform rest
  simp only [qualifiedLength?, scope, behind]
  cases rest.dropWhile isWordChar with
  | nil => rfl
  | cons c more =>
    by_cases colon : c = ':'
    · subst colon
      rw [Text.bytewise_cons, Text.bytewise_singleton (by decide), List.singleton_append]
      simp only [Text.takeWhile_bytewise_of_isAscii isAscii_isQualifiedChar]
    · obtain ⟨byte, others, bytes, same⟩ := Text.exists_bytewise_eq_cons c more
      have still : decide (byte = ':') = decide (c = ':') :=
        same _ (Text.uniform_eq (by decide))
      have differ : byte ≠ ':' := of_decide_eq_false (still.trans (decide_eq_false colon))
      rw [bytes]
      split
      · rename_i found
        exact absurd (List.cons.inj found).1 differ
      · split
        · rename_i found
          exact absurd (List.cons.inj found).1 colon
        · rfl

theorem digitLength?_bytewise (rest : Text) :
    digitLength? rest.bytewise = digitLength? rest := by
  simp only [digitLength?, Text.takeWhile_bytewise_of_isAscii Text.isAscii_isDigit]

theorem quotedLength?_cons_self (delimiter : Char) (more : Text) :
    quotedLength? delimiter (delimiter :: more) =
      if delimiter ∈ more then some ((more.takeWhile (· ≠ delimiter)).length + 2) else none := by
  have parts := length_takeWhile_add_dropWhile (· ≠ delimiter) more
  have closed : (more.takeWhile (· ≠ delimiter)).length < more.length ↔ delimiter ∈ more := by
    rw [← parts, Nat.lt_add_right_iff_pos, List.length_pos_iff, ne_eq, List.dropWhile_eq_nil_iff]
    simp
  simp only [quotedLength?, closed, true_and]

theorem quotedLength?_cons_of_ne {delimiter c : Char} (other : c ≠ delimiter) (more : Text) :
    quotedLength? delimiter (c :: more) = none := by
  simp [quotedLength?, other]

theorem quotedLength?_bytewise {delimiter : Char} (ascii : delimiter.toNat < 0x80) (rest : Text) :
    quotedLength? delimiter rest.bytewise =
      (quotedLength? delimiter rest).map fun length => Text.size (rest.take length) := by
  cases rest with
  | nil => rfl
  | cons c more =>
    by_cases opens : c = delimiter
    · subst opens
      rw [Text.bytewise_cons, Text.bytewise_singleton ascii, List.singleton_append,
        quotedLength?_cons_self, quotedLength?_cons_self, Text.takeWhile_bytewise
        (Text.uniform_ne ascii), Text.length_bytewise]
      simp only [Text.mem_bytewise_iff ascii]
      split
      · rename_i closed
        obtain ⟨body, back, rfl, outside⟩ := List.eq_append_cons_of_mem closed
        have inside : ∀ d ∈ body, decide (d ≠ c) := fun d member =>
          decide_eq_true fun same => outside (same ▸ member)
        have stop : (c :: back).head?.any (· ≠ c) = false := by simp
        have taken : (c :: (body ++ c :: back)).take (body.length + 2) = c :: (body ++ [c]) := by
          rw [List.take_succ_cons, List.take_length_add_append, List.take_succ_cons, List.take_zero]
        have width : Text.size [c] = 1 := Text.size_of_ascii (by simpa using ascii)
        rw [Text.takeWhile_run inside stop, Option.map_some, taken, Text.size_cons,
          Text.size_append, width, Option.some.injEq]
        rw [Text.size_cons, Text.size_nil] at width
        omega
      · rfl
    · obtain ⟨byte, others, bytes, same⟩ := Text.exists_bytewise_eq_cons c more
      have still : decide (byte = delimiter) = decide (c = delimiter) :=
        same _ (Text.uniform_eq ascii)
      have differ : byte ≠ delimiter := of_decide_eq_false (still.trans (decide_eq_false opens))
      rw [bytes, quotedLength?_cons_of_ne differ, quotedLength?_cons_of_ne opens, Option.map_none]

theorem length?_bytewise (rule : Rule) (rest : Text) :
    rule.length? rest.bytewise =
      (rule.length? rest).map fun length => Text.size (rest.take length) := by
  have narrow (bare : ∀ quote, rule ≠ .quoted quote)
      (same : rule.length? rest.bytewise = rule.length? rest) :
      rule.length? rest.bytewise =
        (rule.length? rest).map fun length => Text.size (rest.take length) := by
    rw [same]
    cases held : rule.length? rest with
    | none => rfl
    | some length =>
      have width := Text.size_of_ascii ((accepts_take rule held).ascii bare)
      rw [List.length_take_of_le (length?_bounds held).2] at width
      rw [Option.map_some, width]
  cases rule with
  | quoted quote => exact quotedLength?_bytewise (toNat_delimiter_lt quote) rest
  | operator =>
    refine narrow (fun _ same => by cases same) ?_
    rw [length?, length?, connector?_bytewise]
  | bracket =>
    refine narrow (fun _ same => by cases same) ?_
    simp only [length?, Text.head?_any_bytewise isAscii_brackets.uniform]
  | qualifiedName => exact narrow (fun _ same => by cases same) (qualifiedLength?_bytewise rest)
  | number => exact narrow (fun _ same => by cases same) (digitLength?_bytewise rest)

end Rule

theorem matchRule?_bytewise (rest : Text) :
    matchRule? rest.bytewise = (matchRule? rest).map fun found =>
      ⟨found.rule, Text.size (rest.take found.length)⟩ := by
  have first (text : Text) : matchRule? text = firstMatch? text :=
    (matchRule?_eq_rule? text).trans (mayReport_of text).rule?_eq
  rw [first, first, firstMatch?, firstMatch?, List.map_findSome?]
  congr 1
  funext rule
  simp [Rule.length?_bytewise, Function.comp_def]

end Rules

section Keywords

theorem wordStop_append (front back : Text) :
    wordStop (front ++ back) front.size =
      .ok (front.size + (back.takeWhile isWordChar).length) := by
  rw [wordStop, Text.bytesFrom_append]
  change Except.ok (front.size + (back.bytewise.takeWhile isWordChar).length) = _
  rw [Text.takeWhile_bytewise_of_isAscii isAscii_isWordChar]

theorem hyphenatedWord_ascii (rest : Text) : ∀ c ∈ hyphenatedWord rest, c.toNat < 0x80 := by
  have run (text : Text) : ∀ c ∈ text.takeWhile isWordChar, c.toNat < 0x80 := fun c member =>
    isAscii_isWordChar c (isWordChar_of_mem_takeWhile text c member)
  intro c member
  by_cases hyphen : (rest.dropWhile isWordChar).head? = some '-'
  · obtain ⟨more, behind⟩ := List.head?_eq_some_iff.mp hyphen
    by_cases present : rest.takeWhile isWordChar = []
    · rw [hyphenatedWord_of_no_word present] at member
      cases member
    · rw [hyphenatedWord_eq_of_hyphen present behind] at member
      rcases List.mem_append.mp member with left | right
      · exact run rest c left
      · rcases List.mem_cons.mp right with rfl | second
        · decide
        · exact run more c second
  · rw [hyphenatedWord_of_not_hyphen hyphen] at member
    exact run rest c member

/-- A word stops behind the hyphen and the second word, if there are any. -/
theorem hyphenStop_eq (front : Text) (present : rest.takeWhile isWordChar ≠ []) :
    hyphenStop (front ++ rest) (front.size + (rest.takeWhile isWordChar).length) =
      .ok (front.size + (hyphenatedWord rest).length) := by
  have parted : front ++ rest =
      front ++ rest.takeWhile isWordChar ++ rest.dropWhile isWordChar := by
    rw [List.append_assoc, List.takeWhile_append_dropWhile]
  have ascii : ∀ c ∈ rest.takeWhile isWordChar, c.toNat < 0x80 := fun c member =>
    isAscii_isWordChar c (isWordChar_of_mem_takeWhile rest c member)
  have stop : front.size + (rest.takeWhile isWordChar).length =
      Text.size (front ++ rest.takeWhile isWordChar) := by
    rw [Text.size_append, Text.size_of_ascii ascii]
  have found : (Text.bytewise (front ++ rest))[Text.size (front ++ rest.takeWhile isWordChar)]? =
      some '-' ↔ (rest.dropWhile isWordChar).head? = some '-' := by
    rw [parted, Text.getElem?_bytewise_append, Text.head?_bytewise_eq_some_iff (by decide)]
  rw [hyphenStop, stop]
  by_cases hyphen : (rest.dropWhile isWordChar).head? = some '-'
  · obtain ⟨more, behind⟩ := List.head?_eq_some_iff.mp hyphen
    have whole : front ++ rest = front ++ rest.takeWhile isWordChar ++ ['-'] ++ more := by
      rw [parted, behind, List.append_cons]
    have width : Text.size ['-'] = 1 := rfl
    have second := wordStop_append (front ++ rest.takeWhile isWordChar ++ ['-']) more
    rw [Text.size_append _ ['-'], width] at second
    rw [if_pos (found.mpr hyphen), whole, second, hyphenatedWord_eq_of_hyphen present behind,
      List.length_append, List.length_cons, ← stop]
    congr 1
    omega
  · rw [if_neg (mt found.mp hyphen), hyphenatedWord_of_not_hyphen hyphen, stop]

theorem keywordWidth?_append (white : Text.IsBlank indent)
    (dark : rest.head?.any isWhitespace = false) :
    keywordWidth? (indent ++ rest) = .ok
      (if keywords.contains (String.ofList (hyphenatedWord rest)) then
        some (indent ++ hyphenatedWord rest).size else none) := by
  have trimmed : Text.trimStart (indent ++ rest) = rest := Text.dropWhile_run white dark
  have start : Text.size (indent ++ rest) - rest.size = indent.size := by
    rw [Text.size_append, Nat.add_sub_cancel]
  rw [keywordWidth?, trimmed, start, wordStop_append]
  by_cases present : rest.takeWhile isWordChar = []
  · have stays : indent.size + (rest.takeWhile isWordChar).length = indent.size := by
      rw [present, List.length_nil, Nat.add_zero]
    have unlisted : ¬keywords.contains (String.ofList []) := by decide
    rw [hyphenatedWord_of_no_word present, if_neg unlisted]
    simp only [bind, Except.bind, pure, Except.pure, stays, if_true]
  · have moves : indent.size + (rest.takeWhile isWordChar).length ≠ indent.size := by
      have := List.length_pos_iff.mpr present
      omega
    obtain ⟨tail, whole⟩ := hyphenatedWord_begins rest
    have word := Text.cut_append indent (hyphenatedWord rest) tail
    rw [whole] at word
    have stops := hyphenStop_eq indent present
    rw [← Text.size_of_ascii (hyphenatedWord_ascii rest)] at stops
    simp only [bind, Except.bind, pure, Except.pure, if_neg moves, stops, word, Text.size_append]

theorem keywordWidth?_eq (line : Text) :
    keywordWidth? line = .ok ((keywordLength? line).map fun length =>
      Text.size (line.take length)) := by
  have bytes := keywordWidth?_append (Text.isBlank_takeWhile line)
    (Text.head?_any_dropWhile isWhitespace line)
  rw [List.takeWhile_append_dropWhile, hyphenatedWord_trim] at bytes
  have taken := List.prefix_iff_eq_take.mp (indent_append_hyphenatedWord_begins line)
  rw [bytes, keywordLength?_eq]
  split
  · rw [Option.map_some, ← taken]
  · rfl

end Keywords

section Scans

theorem classifyBytes_eq (atLineStart : Bool) (c : Char) (more : Text) :
    classifyBytes atLineStart (c :: more) =
      .ok ((classifyStart atLineStart (c :: more)).1,
        Text.size ((c :: more).take (classifyStart atLineStart (c :: more)).2)) := by
  have keyword : (if atLineStart then keywordWidth? (c :: more) else .ok none) =
      .ok ((if atLineStart then keywordLength? (c :: more) else none).map fun length =>
        Text.size ((c :: more).take length)) := by
    cases atLineStart with
    | true => exact keywordWidth?_eq (c :: more)
    | false => rfl
  rw [classifyBytes, keyword, classifyStart]
  simp only [Except.map, matchRule?_bytewise]
  cases if atLineStart then keywordLength? (c :: more) else none with
  | some length => rfl
  | none =>
    cases matchRule? (c :: more) with
    | some found => rfl
    | none => rfl

theorem scanBytes_append (front rest : Text) (state : ScanState) :
    scanBytes (front ++ rest) front.size state =
      .ok (scanToken? (front ++ rest) front.size state) := by
  rw [scanBytes, Text.cut_to_end, scanToken?_append]
  cases rest with
  | nil => rfl
  | cons c more =>
    have span := Text.cut_append front
      ((c :: more).take (classifyStart (front.size = 0) (c :: more)).2)
      ((c :: more).drop (classifyStart (front.size = 0) (c :: more)).2)
    rw [List.take_append_drop] at span
    rw [LineScanner.next?_cons]
    simp only [bind, Except.bind, pure, Except.pure, classifyBytes_eq, span, Option.map_some]

/-- No cut fails, and the scan by bytes finds what the scan by characters does. -/
theorem scanBytes_eq (line : Text) (position : Nat) (state : ScanState) :
    scanBytes line position state = .ok (scanToken? line position state) := by
  by_cases boundary : line.IsBoundary position
  · have scanned := scanBytes_append (line.takeBytes position) (line.dropBytes position) state
    have start : Text.size (line.takeBytes position) = position := boundary
    rwa [Text.takeBytes_append_dropBytes, start] at scanned
  · rw [scanBytes, Text.cut_of_not_isBoundary boundary, scanToken?, LineScanner.at?,
      if_neg boundary]
    rfl

/-- There is no token at the end of the line, past it, or inside a character. -/
theorem scanToken?_eq_none_iff :
    scanToken? line position state = none ↔ line.size ≤ position ∨ line.Splits position := by
  by_cases boundary : line.IsBoundary position
  · obtain ⟨within, unsplit⟩ := Text.isBoundary_iff.mp boundary
    have start : Text.size (line.takeBytes position) = position := boundary
    have whole := Text.takeBytes_append_dropBytes position line
    have size := congrArg Text.size whole
    rw [Text.size_append, start] at size
    have scanned := scanToken?_append (line.takeBytes position) (line.dropBytes position) state
    rw [whole, start] at scanned
    rw [scanned, Option.map_eq_none_iff, or_iff_left unsplit]
    cases left : line.dropBytes position with
    | nil =>
      rw [left, Text.size_nil] at size
      exact iff_of_true rfl (by omega)
    | cons c more =>
      have := Text.size_pos (List.cons_ne_nil c more)
      rw [left] at size
      rw [LineScanner.next?_cons]
      exact iff_of_false nofun (by omega)
  · have missing : scanToken? line position state = none := by
      rw [scanToken?, LineScanner.at?, if_neg boundary, Option.bind_none]
    rw [Text.isBoundary_iff, not_and_or, not_not] at boundary
    exact iff_of_true missing (boundary.imp_left fun past => by omega)

theorem standsIn_of_scanToken? (given : scanToken? line position state = some (token, after)) :
    token.span.start = position ∧ token.StandsIn line := by
  obtain ⟨front, rest, behind, rfl, rfl, step, -⟩ := exists_next?_of_scanToken? given
  obtain ⟨-, -, span, -⟩ := LineScanner.next?_cuts step
  have cut := LineScanner.tokens_cuts ⟨front.size, rest, state⟩
  rw [LineScanner.tokens_of_next? step] at cut
  exact ⟨congrArg ByteRange.start span, cut.standsIn rfl token List.mem_cons_self⟩

/-- Whoever asks for one token after another gets the rest of the line in pieces. -/
theorem scanTokens_cuts (boundary : line.IsBoundary position) (state : ScanState) :
    Cuts position (line.dropBytes position) (scanTokens line position state) := by
  have start : Text.size (line.takeBytes position) = position := boundary
  have collected : scanTokens (line.takeBytes position ++ line.dropBytes position)
      (Text.size (line.takeBytes position)) state = LineScanner.tokens
        ⟨Text.size (line.takeBytes position), line.dropBytes position, state⟩ :=
    scanTokens_append _ rfl
  have cut := LineScanner.tokens_cuts
    ⟨Text.size (line.takeBytes position), line.dropBytes position, state⟩
  rw [← collected, Text.takeBytes_append_dropBytes, start] at cut
  exact cut

/-- A scan from any offset in any state finds no token exactly at the end of the line, past it and
inside a character. A token that is found begins at the offset, has a width, and ends on the line
between two characters. No cut on the way is out of range or inside a character. From between
two characters one scan after another leads to the end of the line, each over a character or
more. -/
theorem scanToken?_safe (line : Text) (position : Nat) (state : ScanState) :
    (scanToken? line position state = none ↔ line.size ≤ position ∨ line.Splits position) ∧
    (∀ token after, scanToken? line position state = some (token, after) →
      token.span.start = position ∧ position < token.span.stop ∧
        token.span.stop ≤ line.size ∧ token.StandsIn line) ∧
    scanBytes line position state = .ok (scanToken? line position state) ∧
    (line.IsBoundary position →
      Contiguous position line.size (scanTokens line position state) ∧
        (scanTokens line position state).length ≤ (line.dropBytes position).length) := by
  refine ⟨scanToken?_eq_none_iff, fun token after given => ?_, scanBytes_eq line position state,
    fun boundary => ?_⟩
  · obtain ⟨start, stands⟩ := standsIn_of_scanToken? given
    obtain ⟨further, within⟩ := scanToken?_bounds given
    exact ⟨start, further, within, stands⟩
  · have cut := scanTokens_cuts boundary state
    have start : Text.size (line.takeBytes position) = position := boundary
    have size := congrArg Text.size (Text.takeBytes_append_dropBytes position line)
    rw [Text.size_append, start] at size
    refine ⟨?_, cut.length_le⟩
    rw [← size]
    exact cut.contiguous

/-- A keyword behind an indent of one wide character, and a string with another inside. -/
theorem scanToken?_safe_of_wide_indent :
    let line : Text := "\u00a0end \"\u00e9\"".toList
    let keyword : Token := ⟨.keyword, "\u00a0end".toList, ⟨0, 5⟩⟩
    line.Splits 1 ∧ scanToken? line 1 {} = none ∧
      scanToken? line 0 {} = some (keyword, {}) ∧ keyword.span.stop ≤ line.size ∧
      keyword.StandsIn line ∧ line.IsBoundary 5 ∧
      Contiguous 5 line.size (scanTokens line 5 {}) := by
  intro line keyword
  obtain ⟨missing, -⟩ := scanToken?_safe line 1 {}
  obtain ⟨-, given, -⟩ := scanToken?_safe line 0 {}
  obtain ⟨-, -, -, driven⟩ := scanToken?_safe line 5 {}
  have inside : line.Splits 1 := ⟨[], '\u00a0', _, rfl, by decide, by decide⟩
  have found : scanToken? line 0 {} = some (keyword, {}) := by decide
  have between : line.IsBoundary 5 := by decide
  obtain ⟨-, -, within, stands⟩ := given keyword {} found
  exact ⟨inside, missing.mpr (.inr inside), found, within, stands, between, (driven between).1⟩

end Scans
end DiagramEditor.Syntax

import DiagramEditor.Proofs.Syntax.KeywordPlace
import DiagramEditor.Proofs.Syntax.Precedence

/-! What a scanner finds where it stands. The first token of a text is a keyword, a word of one
rule that nothing behind it goes on with, or one character at which no rule holds. A token of a
line is the first one of what is left of the line at some place, and the scanner came to that
place over tokens of the same kind; what holds behind each token therefore holds before each. -/
namespace DiagramEditor.Syntax

variable {source line rest front text behind : Text} {atLineStart : Bool} {category : Category}
  {length : Nat} {token : Token}

/-- The first token of a text by its class, its characters and what is left behind it. -/
inductive FirstToken (atLineStart : Bool) : Category → (text behind : Text) → Prop where
  | keyword {indent keyword behind : Text} : atLineStart →
      OpensWith (indent ++ (keyword ++ behind)) indent keyword behind →
      FirstToken atLineStart .keyword (indent ++ keyword) behind
  | operator {word behind : Text} : word ∈ Rule.connectors →
      FirstToken atLineStart .operator word behind
  | bracket {c : Char} {behind : Text} : c ∈ Rule.brackets →
      FirstToken atLineStart .bracket [c] behind
  | string {quote : Quote} {body behind : Text} : quote.delimiter ∉ body →
      FirstToken atLineStart .string (quote.delimiter :: (body ++ [quote.delimiter])) behind
  | identifier {scope name behind : Text} : scope ≠ [] → (∀ c ∈ scope, isWordChar c) →
      name ≠ [] → (∀ c ∈ name, isQualifiedChar c) → behind.head?.any isQualifiedChar = false →
      FirstToken atLineStart .identifier (scope ++ ':' :: name) behind
  | number {digits behind : Text} : digits ≠ [] → (∀ c ∈ digits, c.isDigit) →
      behind.head?.any Char.isDigit = false → Rule.qualifiedLength? (digits ++ behind) = none →
      FirstToken atLineStart .number digits behind
  | plain {c : Char} {behind : Text} : (∀ rule : Rule, rule.length? (c :: behind) = none) →
      FirstToken atLineStart .plain [c] behind

theorem FirstToken.ne_nil (first : FirstToken atLineStart category text behind) : text ≠ [] := by
  cases first with
  | keyword _ opens =>
    obtain ⟨present, -⟩ := hyphenatedWord_of_mem_keywords opens.listed
    exact List.append_ne_nil_of_right_ne_nil _ present
  | operator listed =>
    rintro rfl
    exact absurd listed (by decide)
  | identifier => simp
  | number present => exact present
  | _ => exact List.cons_ne_nil _ _

/-- The word of a rule is a first token, a number if it is not the beginning of a name. -/
theorem exists_firstToken_of_length? {rule : Rule} (held : rule.length? rest = some length)
    (unnamed : rule = .number → Rule.qualifiedLength? rest = none) :
    ∃ text behind, rest = text ++ behind ∧ length = text.length ∧
      FirstToken atLineStart rule.category text behind := by
  cases rule with
  | operator =>
    obtain ⟨word, chosen, rfl⟩ := Option.map_eq_some_iff.mp held
    obtain ⟨listed, behind, whole⟩ := Rule.connector?_begins chosen
    exact ⟨word, behind, whole.symm, rfl, .operator listed⟩
  | bracket =>
    simp only [Rule.length?, Option.ite_none_right_eq_some, Option.some.injEq] at held
    obtain ⟨present, rfl⟩ := held
    cases rest with
    | nil => simp at present
    | cons c more => exact ⟨[c], more, rfl, rfl, .bracket (List.contains_iff_mem.mp present)⟩
  | quoted quote =>
    obtain ⟨body, behind, rfl, outside, rfl⟩ := Rule.quotedLength?_eq_some.mp held
    exact ⟨_, behind, by simp, by simp, .string outside⟩
  | qualifiedName =>
    obtain ⟨scope, more, rfl, present, inside, name, rfl⟩ := Rule.qualifiedLength?_eq_some.mp held
    have parted : more.takeWhile isQualifiedChar ++ more.dropWhile isQualifiedChar = more :=
      List.takeWhile_append_dropWhile
    refine ⟨scope ++ ':' :: more.takeWhile isQualifiedChar, more.dropWhile isQualifiedChar, ?_, ?_,
      .identifier present inside name (List.all_eq_true.mp List.all_takeWhile)
        (Text.head?_any_dropWhile _ _)⟩
    · rw [List.append_assoc, List.cons_append, parted]
    · rw [List.length_append, List.length_cons]
      omega
  | number =>
    have single := unnamed rfl
    have parted : rest.takeWhile Char.isDigit ++ rest.dropWhile Char.isDigit = rest :=
      List.takeWhile_append_dropWhile
    simp only [Rule.length?, Rule.digitLength?, Option.ite_none_left_eq_some, Option.some.injEq,
      List.isEmpty_iff] at held
    obtain ⟨present, rfl⟩ := held
    rw [← parted] at single
    exact ⟨_, _, parted.symm, rfl, .number present (List.all_eq_true.mp List.all_takeWhile)
      (Text.head?_any_dropWhile _ _) single⟩

theorem exists_firstToken (atLineStart : Bool) (c : Char) (more : Text) :
    ∃ text behind, c :: more = text ++ behind ∧
      (classifyStart atLineStart (c :: more)).2 = text.length ∧
      FirstToken atLineStart (classifyStart atLineStart (c :: more)).1 text behind := by
  have same : matchRule? (c :: more) = firstMatch? (c :: more) :=
    (matchRule?_eq_rule? _).trans (mayReport_of _).rule?_eq
  unfold classifyStart
  split
  · rename_i length found
    split at found
    · rename_i start
      obtain ⟨indent, keyword, behind, opens, rfl⟩ := keywordLength?_eq_some_iff.mp found
      have whole := opens.whole
      rw [whole] at opens
      exact ⟨_, behind, by rw [whole, List.append_assoc], rfl, .keyword start opens⟩
    · contradiction
  · rw [same]
    split
    · rename_i found first
      obtain ⟨held, longest⟩ := firstMatch?_eq_some_iff.mp first
      refine exists_firstToken_of_length? held fun number => ?_
      -- A name would have been the longer match.
      cases named : Rule.qualifiedLength? (c :: more) with
      | none => rfl
      | some length =>
        rw [number] at held
        have longer := Rule.digitLength?_lt_qualifiedLength? named held
        exact absurd (longest .qualifiedName length named) (Nat.not_le.mpr longer)
    · rename_i none
      refine ⟨[c], more, rfl, rfl, .plain fun rule => Option.eq_none_iff_forall_ne_some.mpr ?_⟩
      intro length held
      exact firstMatch?_eq_none_iff.mp none rule _ (Rule.accepts_take rule held)
        (List.take_prefix _ _)

theorem LineScanner.firstToken {scanner after : LineScanner}
    (step : scanner.next? = some (token, after)) :
    FirstToken (scanner.position = 0) token.category token.text after.rest := by
  obtain ⟨position, rest, state⟩ := scanner
  cases rest with
  | nil => contradiction
  | cons c more =>
    obtain ⟨text, behind, whole, length, first⟩ := exists_firstToken (position = 0) c more
    have taken : (c :: more).take text.length = text := by rw [whole, List.take_left]
    have left : (c :: more).drop text.length = behind := by rw [whole, List.drop_left]
    rw [next?_cons] at step
    simp only [length, taken, left] at step
    cases step
    exact first

/-- A scanner of the line comes to stand between its two parts: at the start of the line, and
behind each token that it finds where it stands. -/
inductive Stands (line : Text) : (front rest : Text) → Prop where
  | start : Stands line [] line
  | next {front text behind : Text} {category : Category} : Stands line front (text ++ behind) →
      FirstToken front.isEmpty category text behind → Stands line (front ++ text) behind

theorem Stands.whole (stands : Stands line front rest) : line = front ++ rest := by
  induction stands with
  | start => rfl
  | next _ _ ih => rw [ih, List.append_assoc]

/-- A token in its place on a line: what is before it and what is behind it there. -/
structure Token.StandsBetween (token : Token) (line front behind : Text) : Prop where
  stands : Stands line front (token.text ++ behind)
  first : FirstToken front.isEmpty token.category token.text behind
  span : token.span = ⟨front.size, front.size + token.text.size⟩

theorem exists_standsBetween_of_mem_tokens (scanner : LineScanner)
    (stands : Stands line front scanner.rest) (position : scanner.position = front.size)
    (member : token ∈ scanner.tokens) :
    ∃ front behind, token.StandsBetween line front behind := by
  fun_induction LineScanner.tokens scanner generalizing front with
  | case1 => contradiction
  | case2 scanner found after step ih =>
    obtain ⟨nonempty, whole, span, stop⟩ := LineScanner.next?_cuts step
    have start : decide (scanner.position = 0) = front.isEmpty := by
      cases front with
      | nil => simp [position]
      | cons c more =>
        have further := Text.size_pos (List.cons_ne_nil c more)
        simp only [position, List.isEmpty_cons, decide_eq_false_iff_not]
        omega
    have first := LineScanner.firstToken step
    rw [start] at first
    rw [whole] at stands
    rcases List.mem_cons.mp member with rfl | later
    · exact ⟨front, after.rest, stands, first, by rw [span, stop, position]⟩
    · exact ih (stands.next first) (by rw [stop, position, Text.size_append]) later

theorem exists_standsBetween (member : token ∈ tokenizeLine line) :
    ∃ front behind, token.StandsBetween line front behind :=
  exists_standsBetween_of_mem_tokens (.ofLine line) .start rfl member

/-- A token in its place in a source: the lines above, what is before and behind it on its own
line, and what comes below that. -/
structure Token.HasPlace (token : Token) (source above front behind below : Text) : Prop where
  whole : source = above ++ front ++ (token.text ++ (behind ++ below))
  line : IsLine above (front ++ (token.text ++ behind)) below
  stands : Stands (front ++ (token.text ++ behind)) front (token.text ++ behind)
  first : FirstToken front.isEmpty token.category token.text behind
  span : token.span = ⟨Text.size (above ++ front), Text.size (above ++ front) + token.text.size⟩

theorem exists_hasPlace (member : token ∈ tokenize source) :
    (∃ place, token = newlineToken place) ∨
      ∃ above front behind below, token.HasPlace source above front behind below := by
  rcases exists_line_of_mem_tokenize member with
    newline | ⟨above, line, below, rfl, whole, inner, inside, rfl⟩
  · exact .inl newline
  · obtain ⟨front, behind, stands, first, span⟩ := exists_standsBetween inside
    obtain rfl := stands.whole
    refine .inr ⟨above, front, behind, below, ?_, whole, stands, first, ?_⟩
    · simp only [Token.shift, List.append_assoc]
    · simp only [Token.shift, ByteRange.shift, span, Text.size_append, Nat.add_comm _ above.size,
        Nat.add_assoc]

end DiagramEditor.Syntax

import DiagramEditor.Proofs.Syntax.FirstToken
import DiagramEditor.Proofs.Text.Byte

/-! What stands beside a token. A scanner looks ahead only, so what is before a token has to be
read off the token in front: where that ends in a digit no digits go on, and where it ends in a
word character no name begins, since the name would have begun there at the latest. Digits,
brackets and bars are never plain text, because each of them begins a match by itself. -/
namespace DiagramEditor.Syntax

variable {source line rest front text behind : Text} {atLineStart : Bool} {category : Category}
  {token : Token} {c : Char} {p : Char → Bool} {place : Nat}

theorem isAscii_isWordChar : Text.IsAscii isWordChar := by
  intro c word
  rcases Bool.or_eq_true_iff.mp word with alphanumeric | underscore
  · exact Text.isAscii_isAlphanum c alphanumeric
  · rw [of_decide_eq_true underscore]
    decide

theorem isAscii_isQualifiedChar : Text.IsAscii isQualifiedChar := by
  intro c qualified
  rcases Bool.or_eq_true_iff.mp qualified with word | hyphen
  · exact isAscii_isWordChar c word
  · rw [of_decide_eq_true hyphen]
    decide

theorem head?_any_of_imp {q : Char → Bool} (weaker : ∀ c, p c → q c)
    (outside : rest.head?.any q = false) : rest.head?.any p = false := by
  cases rest with
  | nil => rfl
  | cons c more =>
    rw [List.head?_cons, Option.any_some] at outside ⊢
    exact Bool.eq_false_iff.mpr fun held => Bool.eq_false_iff.mp outside (weaker c held)

theorem qualifiedLength?_of_head? (outside : rest.head?.any isWordChar = false) :
    Rule.qualifiedLength? rest = none := by
  refine Option.eq_none_iff_forall_ne_some.mpr fun length named => ?_
  obtain ⟨scope, more, rfl, present, inside, -⟩ := Rule.qualifiedLength?_eq_some.mp named
  cases scope with
  | nil => exact present rfl
  | cons c others =>
    rw [List.cons_append, List.head?_cons, Option.any_some,
      inside c List.mem_cons_self] at outside
    cases outside

theorem qualifiedLength?_of_append (inside : ∀ c ∈ front, isWordChar c)
    (unnamed : Rule.qualifiedLength? (front ++ rest) = none) :
    Rule.qualifiedLength? rest = none := by
  refine Option.eq_none_iff_forall_ne_some.mpr fun length named => ?_
  obtain ⟨scope, more, rfl, present, word, name, -⟩ := Rule.qualifiedLength?_eq_some.mp named
  have longer : ∀ c ∈ front ++ scope, isWordChar c := List.forall_mem_append.mpr ⟨inside, word⟩
  rw [Rule.qualifiedLength?_eq_some.mpr ⟨front ++ scope, more, by simp,
    List.append_ne_nil_of_right_ne_nil _ present, longer, name, rfl⟩] at unnamed
  cases unnamed

/-- Neither a run of digits nor a name reaches from the one part into the other. -/
structure Parted (front rest : Text) : Prop where
  digits : front.getLast?.any Char.isDigit → rest.head?.any Char.isDigit = false
  names : front.getLast?.any isWordChar → Rule.qualifiedLength? rest = none

theorem parted_of_head? (outside : behind.head?.any isWordChar = false) : Parted text behind where
  digits _ := head?_any_of_imp (fun _ => isWordChar_of_isDigit) outside
  names _ := qualifiedLength?_of_head? outside

theorem parted_of_getLast? (outside : text.getLast?.any isWordChar = false) :
    Parted text behind where
  digits digit := by
    obtain ⟨c, ends, held⟩ := (Option.any_eq_true _ _).mp digit
    rw [ends, Option.any_some, isWordChar_of_isDigit held] at outside
    cases outside
  names word := by
    rw [outside] at word
    cases word

theorem FirstToken.parted (first : FirstToken atLineStart category text behind) :
    Parted text behind := by
  cases first with
  | keyword _ opens => exact parted_of_head? opens.ends
  | operator listed =>
    have ends : ∀ word ∈ Rule.connectors, word.getLast?.any isWordChar = false := by decide
    exact parted_of_getLast? (ends _ listed)
  | bracket listed =>
    have outside : ∀ c ∈ Rule.brackets, isWordChar c = false :=
      List.forall_iff_forall_mem.mp (by decide)
    exact parted_of_getLast? (outside _ listed)
  | @string quote body behind =>
    have outside : isWordChar quote.delimiter = false := by cases quote <;> decide
    rw [← List.cons_append]
    exact parted_of_getLast? (by rw [List.getLast?_concat, Option.any_some, outside])
  | identifier _ _ _ _ ends =>
    refine parted_of_head? (head?_any_of_imp (fun c word => ?_) ends)
    rw [isQualifiedChar, word, Bool.true_or]
  | number _ inside ends unnamed =>
    exact ⟨fun _ => ends, fun _ =>
      qualifiedLength?_of_append (fun c member => isWordChar_of_isDigit (inside c member)) unnamed⟩
  | @plain c behind refused =>
    -- A digit would be a number, and a word character before a name would begin that name.
    constructor
    · intro digit
      have counted : Rule.number.length? (c :: behind) = none := refused .number
      have held : c.isDigit := digit
      simp [Rule.length?, Rule.digitLength?, held] at counted
    · intro word
      have unnamed : Rule.qualifiedLength? ([c] ++ behind) = none := refused .qualifiedName
      exact qualifiedLength?_of_append (fun d member => List.mem_singleton.mp member ▸ word) unnamed

theorem Stands.parted (stands : Stands line front rest) : Parted front rest := by
  induction stands with
  | start => exact parted_of_getLast? rfl
  | @next front text behind category _ first _ =>
    have ends : (front ++ text).getLast? = text.getLast? :=
      List.getLast?_append_of_ne_nil _ first.ne_nil
    have parted := first.parted
    exact ⟨fun digit => parted.digits (ends ▸ digit), fun word => parted.names (ends ▸ word)⟩

/-! ### Characters that match by themselves -/

/-- Where a character can be that begins a match wherever it stands, and that is neither white
space nor in a keyword: in a string, a connector or a name, or it is a bracket or a digit. -/
theorem FirstToken.cases_of_mem (dark : IsDark p)
    (unlisted : ∀ word ∈ keywords, word.toList.all (!p ·))
    (matched : ∀ c behind, p c → ∃ rule : Rule, rule.length? (c :: behind) ≠ none)
    (first : FirstToken atLineStart category text behind) (member : c ∈ text) (held : p c) :
    category = .string ∨ (category = .operator ∧ text ∈ Rule.connectors) ∨
      (category = .bracket ∧ c ∈ Rule.brackets ∧ text = [c]) ∨
      (category ∈ [.number, .identifier] ∧ (isQualifiedChar c ∨ c = ':')) := by
  cases first with
  | @keyword indent keyword _ _ opens =>
    rcases List.mem_append.mp member with white | word
    · have blank := Text.isBlank_takeWhile (indent ++ (keyword ++ behind))
      rw [← opens.indent] at blank
      exact absurd white (blank.not_mem (dark c held))
    · have missing := unlisted _ opens.listed
      rw [String.toList_ofList] at missing
      have outside := List.all_eq_true.mp missing c word
      rw [held] at outside
      cases outside
  | operator listed => exact .inr (.inl ⟨rfl, listed⟩)
  | bracket listed =>
    obtain rfl := List.mem_singleton.mp member
    exact .inr (.inr (.inl ⟨rfl, listed, rfl⟩))
  | string => exact .inl rfl
  | identifier _ inside _ qualified =>
    refine .inr (.inr (.inr ⟨by decide, ?_⟩))
    rcases List.mem_append.mp member with scope | name
    · exact .inl (by rw [isQualifiedChar, inside c scope, Bool.true_or])
    · rcases List.mem_cons.mp name with colon | name
      · exact .inr colon
      · exact .inl (qualified c name)
  | number _ digits =>
    refine .inr (.inr (.inr ⟨by decide, .inl ?_⟩))
    rw [isQualifiedChar, isWordChar_of_isDigit (digits c member), Bool.true_or]
  | plain refused =>
    obtain rfl := List.mem_singleton.mp member
    obtain ⟨rule, found⟩ := matched _ behind held
    exact absurd (refused rule) found

theorem FirstToken.category_of_digit (first : FirstToken atLineStart category text behind)
    (member : c ∈ text) (digit : c.isDigit) : category ∈ [.number, .identifier, .string] := by
  have matched (c : Char) (behind : Text) (digit : c.isDigit) :
      ∃ rule : Rule, rule.length? (c :: behind) ≠ none :=
    ⟨.number, by simp [Rule.length?, Rule.digitLength?, digit]⟩
  rcases first.cases_of_mem isDark_isDigit (by decide) matched member digit with
    rfl | ⟨-, connector⟩ | ⟨-, bracket, -⟩ | ⟨named, -⟩
  · decide
  · have none : ∀ c ∈ Rule.connectors.flatten, c.isDigit = false :=
      List.forall_iff_forall_mem.mp (by decide)
    exact absurd digit (by simp [none c (List.mem_flatten_of_mem connector member)])
  · have none : ∀ c ∈ Rule.brackets, c.isDigit = false := List.forall_iff_forall_mem.mp (by decide)
    exact absurd digit (by simp [none _ bracket])
  · exact List.mem_append_left [.string] named

theorem FirstToken.of_mem_brackets (first : FirstToken atLineStart category text behind)
    (member : c ∈ text) (listed : Rule.brackets.contains c) :
    category = .string ∨ category = .bracket ∧ text = [c] := by
  have matched (c : Char) (behind : Text) (listed : Rule.brackets.contains c) :
      ∃ rule : Rule, rule.length? (c :: behind) ≠ none := by
    have found : Rule.bracket.length? (c :: behind) = some 1 := if_pos listed
    exact ⟨.bracket, by rw [found]; exact Option.some_ne_none 1⟩
  have other : ∀ c ∈ Rule.brackets,
      isQualifiedChar c = false ∧ c ≠ ':' ∧ c ∉ Rule.connectors.flatten :=
    List.forall_iff_forall_mem.mp (by decide)
  obtain ⟨unnamed, noColon, outside⟩ := other c (List.contains_iff_mem.mp listed)
  rcases first.cases_of_mem isDark_brackets (by decide) matched member listed with
    string | ⟨-, connector⟩ | ⟨bracket, -, single⟩ | ⟨-, name | colon⟩
  · exact .inl string
  · exact absurd (List.mem_flatten_of_mem connector member) outside
  · exact .inr ⟨bracket, single⟩
  · exact absurd name (by simp [unnamed])
  · exact absurd colon noColon

theorem FirstToken.of_mem_bar (first : FirstToken atLineStart category text behind)
    (member : c ∈ text) (bar : decide (c = '|')) :
    category = .string ∨ category = .operator ∧ text = [c] := by
  obtain rfl : c = '|' := of_decide_eq_true bar
  have matched (c : Char) (behind : Text) (bar : decide (c = '|')) :
      ∃ rule : Rule, rule.length? (c :: behind) ≠ none := by
    rw [of_decide_eq_true bar]
    have found : Rule.operator.length? ('|' :: behind) = some 1 := rfl
    exact ⟨.operator, by rw [found]; exact Option.some_ne_none 1⟩
  have dark : IsDark (· = '|') := by
    intro c bar
    rw [of_decide_eq_true bar]
    decide
  rcases first.cases_of_mem dark (by decide) matched member (by decide) with
    string | ⟨operator, connector⟩ | ⟨-, bracket, -⟩ | ⟨-, name | colon⟩
  · exact .inl string
  · have only : ∀ word ∈ Rule.connectors, '|' ∈ word → word = ['|'] := by decide
    exact .inr ⟨operator, only _ connector member⟩
  · exact absurd bracket (by decide)
  · exact absurd name (by decide)
  · exact absurd colon (by decide)

theorem FirstToken.colon_mem (first : FirstToken atLineStart .identifier text behind) :
    ':' ∈ text := by
  cases first with
  | identifier => simp

theorem FirstToken.delimiter_mem (first : FirstToken atLineStart .string text behind) :
    ∃ quote : Quote, quote.delimiter ∈ text := by
  cases first with
  | @string quote => exact ⟨quote, List.mem_cons_self⟩

/-! ### Tokens in their source -/

namespace Token.HasPlace

variable {above below : Text} (placed : token.HasPlace source above front behind below)
include placed

theorem mem_source (member : c ∈ token.text) : c ∈ source := by
  rw [placed.whole]
  exact List.mem_append_right _ (List.mem_append_left _ member)

theorem getLast?_any (noNewline : p '\n' = false) (outside : front.getLast?.any p = false) :
    (above ++ front).getLast?.any p = false := by
  rw [List.getLast?_append]
  cases ends : front.getLast? with
  | some c => rwa [ends] at outside
  | none =>
    rcases placed.line.start with rfl | newline
    · rfl
    · rw [newline]
      exact noNewline

theorem head?_any (noNewline : p '\n' = false) (outside : behind.head?.any p = false) :
    (behind ++ below).head?.any p = false := by
  rw [List.head?_append]
  cases begins : behind.head? with
  | some c => rwa [begins] at outside
  | none =>
    rcases placed.line.stop with rfl | newline
    · rfl
    · rw [newline]
      exact noNewline

theorem isRun_of_number (number : token.category = .number) :
    source.IsRun Char.isDigit token.span := by
  have parted := placed.stands.parted
  have first := placed.first
  rw [number] at first
  cases first with
  | number present inside ends _ =>
    have before : front.getLast?.any Char.isDigit = false := by
      refine Bool.eq_false_iff.mpr fun digit => ?_
      have none := parted.digits digit
      obtain ⟨c, more, text⟩ := List.exists_cons_of_ne_nil present
      rw [text, List.cons_append, List.head?_cons, Option.any_some,
        inside c (text ▸ List.mem_cons_self)] at none
      cases none
    rw [placed.whole, placed.span]
    exact Text.isRun_middle Text.isAscii_isDigit present inside
      (placed.getLast?_any (by decide) before) (placed.head?_any (by decide) ends)

theorem borders_of_identifier (identifier : token.category = .identifier) :
    (∀ place, place + 1 = token.span.start → source.byteIs isWordChar place = false) ∧
      source.byteIs isQualifiedChar token.span.stop = false := by
  have parted := placed.stands.parted
  have first := placed.first
  generalize spelled : token.text = text at first
  rw [identifier] at first
  cases first with
  | @identifier scope name _ present inside named qualified ends =>
    have before : front.getLast?.any isWordChar = false := by
      refine Bool.eq_false_iff.mpr fun word => ?_
      have none := parted.names word
      obtain ⟨length, found, -⟩ := Rule.length?_of_accepts
        (.qualifiedName present inside named qualified) behind
      rw [spelled] at none
      cases none.symm.trans found
    rw [placed.whole, placed.span]
    constructor
    · intro place last
      rw [Text.byteIs_append_of_succ isAscii_isWordChar last,
        placed.getLast?_any (by decide) before]
    · rw [← List.append_assoc (above ++ front), ← Text.size_append,
        Text.byteIs_size_append isAscii_isQualifiedChar, placed.head?_any (by decide) ends]

theorem span_of_singleton (single : token.text = [c]) (ascii : c.toNat < 0x80)
    (covers : token.span.Covers place) : token.span = ⟨place, place + 1⟩ := by
  have width : c.utf8Size = 1 := by
    rw [← String.length_utf8EncodeChar, Utf8.utf8EncodeChar_one c (Nat.le_of_lt_succ ascii)]
    rfl
  obtain ⟨start, stop⟩ := covers
  rw [placed.span, single, Text.size_cons, width] at start stop ⊢
  simp only [Text.size_nil] at start stop ⊢
  have here : place = Text.size (above ++ front) := by omega
  rw [here]

end Token.HasPlace

theorem Token.StandsIn.byteIs_text (stands : token.StandsIn source)
    (covers : token.span.Covers place) (held : source.byteIs p place) :
    token.text.byteIs p (place - token.span.start) := by
  obtain ⟨start, stop⟩ := covers
  have inside : place - token.span.start < token.span.stop - token.span.start := by omega
  have here : token.span.start + (place - token.span.start) = place := by omega
  rwa [Text.byteIs, stands.bytes, List.getElem?_take_of_lt inside, List.getElem?_drop, here]

/-- A byte of a class of ASCII characters is part of a token with a character of that class. -/
theorem exists_token_of_byteIs (ascii : Text.IsAscii p) (noNewline : p '\n' = false)
    (held : source.byteIs p place) :
    ∃ token ∈ tokenize source, token.span.Covers place ∧
      ∃ c ∈ token.text, p c ∧ ∃ above front behind below,
        token.HasPlace source above front behind below := by
  have cut := tokenize_cuts source
  have whole : ∀ token ∈ tokenize source, token.StandsIn ([] ++ source) := cut.standsIn rfl
  have bound : place < 0 + source.size := by simpa using Text.lt_size_of_byteIs held
  obtain ⟨token, member, covers⟩ := cut.contiguous.exists_covers (Nat.zero_le place) bound
  obtain ⟨c, inside, of_class⟩ := Text.exists_mem_of_byteIs ascii
    ((whole token member).byteIs_text covers held)
  refine ⟨token, member, covers, c, inside, of_class, ?_⟩
  rcases exists_hasPlace member with ⟨position, rfl⟩ | placed
  · rw [List.mem_singleton.mp inside, noNewline] at of_class
    cases of_class
  · exact placed

theorem exists_token_of_digit (held : source.byteIs Char.isDigit place) :
    ∃ token ∈ tokenize source, token.span.Covers place ∧
      token.category ∈ [.number, .identifier, .string] := by
  obtain ⟨token, member, covers, c, inside, digit, _, _, _, _, placed⟩ :=
    exists_token_of_byteIs Text.isAscii_isDigit (by decide) held
  exact ⟨token, member, covers, placed.first.category_of_digit inside digit⟩

/-- A byte of a class of which each character is a token of its own outside strings. -/
theorem exists_token_of_alone {kind : Category} (ascii : Text.IsAscii p)
    (noNewline : p '\n' = false)
    (alone : ∀ {atLineStart category text behind c}, FirstToken atLineStart category text behind →
      c ∈ text → p c → category = .string ∨ category = kind ∧ text = [c])
    (held : source.byteIs p place) :
    ∃ token ∈ tokenize source, token.span.Covers place ∧
      (token.category = .string ∨ token.category = kind ∧ token.span = ⟨place, place + 1⟩) := by
  obtain ⟨token, member, covers, c, inside, of_class, _, _, _, _, placed⟩ :=
    exists_token_of_byteIs ascii noNewline held
  refine ⟨token, member, covers, ?_⟩
  rcases alone placed.first inside of_class with string | ⟨category, text⟩
  · exact .inl string
  · exact .inr ⟨category, placed.span_of_singleton text (ascii c of_class) covers⟩

theorem isAscii_brackets : Text.IsAscii (Rule.brackets.contains ·) := by
  intro c listed
  have all : ∀ c ∈ Rule.brackets, c.toNat < 0x80 := List.forall_iff_forall_mem.mp (by decide)
  exact all c (List.contains_iff_mem.mp listed)

theorem isAscii_bar : Text.IsAscii (· = '|') := by
  intro c bar
  rw [of_decide_eq_true bar]
  decide

theorem exists_number_of_digit (bare : ∀ c ∈ source, c ≠ ':' ∧ ∀ quote : Quote, c ≠ quote.delimiter)
    (held : source.byteIs Char.isDigit place) :
    ∃ token ∈ tokenize source, token.category = .number ∧ token.span.Covers place := by
  obtain ⟨token, member, covers, c, inside, digit, _, _, _, _, placed⟩ :=
    exists_token_of_byteIs Text.isAscii_isDigit (by decide) held
  have first := placed.first
  have listed := first.category_of_digit inside digit
  simp only [List.mem_cons, List.not_mem_nil, or_false] at listed
  rcases listed with number | identifier | string
  · exact ⟨token, member, number, covers⟩
  · rw [identifier] at first
    exact absurd rfl (bare ':' (placed.mem_source first.colon_mem)).1
  · rw [string] at first
    obtain ⟨quote, delimiter⟩ := first.delimiter_mem
    exact absurd rfl ((bare _ (placed.mem_source delimiter)).2 quote)

/-- Numbers are maximal runs of digits, and no name is cut out of a longer one. Digits are in
numbers, names and strings only. A bracket and a bar are tokens of their own outside strings. If
a source has neither quotes nor colons, its numbers are all maximal runs of digits there are. -/
theorem token_borders (source : Text) :
    (∀ token ∈ tokenize source,
      (token.category = .number → source.IsRun Char.isDigit token.span) ∧
        (token.category = .identifier →
          (∀ place, place + 1 = token.span.start → source.byteIs isWordChar place = false) ∧
            source.byteIs isQualifiedChar token.span.stop = false)) ∧
      (∀ place, source.byteIs Char.isDigit place →
        ∃ token ∈ tokenize source, token.span.Covers place ∧
          token.category ∈ [.number, .identifier, .string]) ∧
      (∀ place, source.byteIs (Rule.brackets.contains ·) place →
        ∃ token ∈ tokenize source, token.span.Covers place ∧
          (token.category = .string ∨
            token.category = .bracket ∧ token.span = ⟨place, place + 1⟩)) ∧
      (∀ place, source.byteIs (· = '|') place →
        ∃ token ∈ tokenize source, token.span.Covers place ∧
          (token.category = .string ∨
            token.category = .operator ∧ token.span = ⟨place, place + 1⟩)) ∧
      ((∀ c ∈ source, c ≠ ':' ∧ ∀ quote : Quote, c ≠ quote.delimiter) →
        ∀ range, source.IsRun Char.isDigit range ↔
          ∃ token ∈ tokenize source, token.category = .number ∧ token.span = range) := by
  have numbers (token : Token) (member : token ∈ tokenize source)
      (number : token.category = .number) : source.IsRun Char.isDigit token.span := by
    rcases exists_hasPlace member with ⟨place, rfl⟩ | ⟨_, _, _, _, placed⟩
    · cases number
    · exact placed.isRun_of_number number
  refine ⟨fun token member => ⟨numbers token member, fun identifier => ?_⟩,
    fun place => exists_token_of_digit,
    fun place => exists_token_of_alone isAscii_brackets (by decide) FirstToken.of_mem_brackets,
    fun place => exists_token_of_alone isAscii_bar (by decide) FirstToken.of_mem_bar,
    fun bare range => ⟨fun run => ?_, ?_⟩⟩
  · rcases exists_hasPlace member with ⟨place, rfl⟩ | ⟨_, _, _, _, placed⟩
    · cases identifier
    · exact placed.borders_of_identifier identifier
  · have start : range.Covers range.start := ⟨Nat.le_refl _, run.nonempty⟩
    obtain ⟨token, member, number, covers⟩ := exists_number_of_digit bare (run.inside _ start)
    exact ⟨token, member, number, (numbers token member number).eq_of_covers run covers start⟩
  · rintro ⟨token, member, number, rfl⟩
    exact numbers token member number

/-- A name that begins with a digit and goes on over a hyphen, a number behind a character of two
bytes, a bar and a bracket; and digits behind a letter, which no name takes in. -/
theorem token_borders_of_digits_in_name :
    let source : Text := "-9a:b-1\u00e907|]".toList
    let bare : Text := "a07\u00e91".toList
    source.IsRun Char.isDigit ⟨9, 11⟩ ∧
      source.byteIs isWordChar 0 = false ∧ source.byteIs isQualifiedChar 7 = false ∧
      (∃ token ∈ tokenize source, token.span.Covers 6 ∧
        token.category ∈ [.number, .identifier, .string]) ∧
      (∃ token ∈ tokenize source, token.span.Covers 12 ∧
        (token.category = .string ∨ token.category = .bracket ∧ token.span = ⟨12, 12 + 1⟩)) ∧
      (∃ token ∈ tokenize source, token.span.Covers 11 ∧
        (token.category = .string ∨ token.category = .operator ∧ token.span = ⟨11, 11 + 1⟩)) ∧
      bare.IsRun Char.isDigit ⟨1, 3⟩ := by
  intro source bare
  have number : ⟨.number, ['0', '7'], ⟨9, 11⟩⟩ ∈ tokenize source := by decide +kernel
  have name : ⟨.identifier, "9a:b-1".toList, ⟨1, 7⟩⟩ ∈ tokenize source := by decide +kernel
  have inner : ⟨.number, ['0', '7'], ⟨1, 3⟩⟩ ∈ tokenize bare := by decide +kernel
  obtain ⟨tokens, digits, brackets, bars, -⟩ := token_borders source
  obtain ⟨-, -, -, -, runs⟩ := token_borders bare
  have loose : ∀ c ∈ bare, c ≠ ':' ∧ ∀ quote : Quote, c ≠ quote.delimiter := by
    have all : ∀ c ∈ bare, c ∉ [':', '"', '\'', '\x60'] :=
      List.forall_iff_forall_mem.mp (by decide)
    intro c member
    have other := all c member
    simp only [List.mem_cons, List.not_mem_nil, or_false, not_or] at other
    refine ⟨other.1, fun quote => ?_⟩
    cases quote <;> simp [Quote.delimiter, other]
  obtain ⟨before, behind⟩ := (tokens _ name).2 rfl
  exact ⟨(tokens _ number).1 rfl, before 0 rfl, behind, digits 6 (by decide),
    brackets 12 (by decide), bars 11 (by decide), (runs loose ⟨1, 3⟩).mpr ⟨_, inner, rfl, rfl⟩⟩

end DiagramEditor.Syntax

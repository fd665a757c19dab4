import DiagramEditor.Proofs.Syntax.Keyword
import DiagramEditor.Proofs.Syntax.SourceLine
import DiagramEditor.Proofs.Text.Run

/-! Where keyword tokens stand. A line opens with a keyword if a word of the table stands behind
its indent and ends there; such lines have one keyword token, which is the indent with the word,
and there are no other keyword tokens. -/
namespace DiagramEditor.Syntax

variable {source line front back indent keyword rest word opening : Text} {length : Nat}
  {token : Token}

/-- A line is its indent, a keyword and the rest. The keyword ends in front of the rest; a
hyphen would go on with it, unless there is one in it already. -/
structure OpensWith (line indent keyword rest : Text) : Prop where
  whole : line = indent ++ (keyword ++ rest)
  indent : indent = line.takeWhile isWhitespace
  listed : String.ofList keyword ∈ keywords
  ends : rest.head?.any isWordChar = false
  noHyphen : '-' ∉ keyword → rest.head? ≠ some '-'

/-- A line of the source begins at a place, and opens there with an indent and a keyword. -/
inductive KeywordAt (source : Text) : (place : Nat) → (opening : Text) → Prop where
  | opens {front line back indent keyword rest : Text} : source = front ++ (line ++ back) →
      IsLine front line back → OpensWith line indent keyword rest →
      KeywordAt source front.size (indent ++ keyword)

theorem hyphenatedWord_of_mem_keywords (listed : String.ofList word ∈ keywords) :
    word ≠ [] ∧ hyphenatedWord word = word := by
  have all : ∀ keyword ∈ keywords,
      keyword.toList ≠ [] ∧ hyphenatedWord keyword.toList = keyword.toList := by decide
  simpa using all _ listed

theorem isWordChar_of_mem_takeWhile (text : Text) : ∀ c ∈ text.takeWhile isWordChar, isWordChar c :=
  List.all_eq_true.mp List.all_takeWhile

theorem hyphenatedWord_eq_of_hyphen {more : Text} (present : rest.takeWhile isWordChar ≠ [])
    (hyphen : rest.dropWhile isWordChar = '-' :: more) :
    hyphenatedWord rest = rest.takeWhile isWordChar ++ '-' :: more.takeWhile isWordChar := by
  simp only [hyphenatedWord, hyphen, List.isEmpty_iff, if_neg present]

theorem hyphenatedWord_of_no_word (absent : rest.takeWhile isWordChar = []) :
    hyphenatedWord rest = [] := by
  simp only [hyphenatedWord, absent]
  split <;> rfl

/-- Behind the first word of a text comes what cannot go on with it. -/
theorem exists_behind_hyphenatedWord (present : hyphenatedWord rest ≠ []) :
    ∃ behind, rest = hyphenatedWord rest ++ behind ∧ behind.head?.any isWordChar = false ∧
      ('-' ∉ hyphenatedWord rest → behind.head? ≠ some '-') := by
  have whole : rest.takeWhile isWordChar ++ rest.dropWhile isWordChar = rest :=
    List.takeWhile_append_dropWhile
  by_cases hyphen : (rest.dropWhile isWordChar).head? = some '-'
  · obtain ⟨more, behind⟩ := List.head?_eq_some_iff.mp hyphen
    have word : rest.takeWhile isWordChar ≠ [] := mt hyphenatedWord_of_no_word present
    rw [hyphenatedWord_eq_of_hyphen word behind]
    refine ⟨more.dropWhile isWordChar, ?_, Text.head?_any_dropWhile isWordChar more, ?_⟩
    · rw [List.append_assoc, List.cons_append, List.takeWhile_append_dropWhile, ← behind, whole]
    · exact fun absent => absurd (by simp) absent
  · rw [hyphenatedWord_of_not_hyphen hyphen]
    exact ⟨_, whole.symm, Text.head?_any_dropWhile isWordChar rest, fun _ => hyphen⟩

/-- A word that is its own first word is the first one of each text in which it ends. -/
theorem hyphenatedWord_append (closed : hyphenatedWord word = word)
    (ends : rest.head?.any isWordChar = false) (noHyphen : '-' ∉ word → rest.head? ≠ some '-') :
    hyphenatedWord (word ++ rest) = word := by
  have inside := isWordChar_of_mem_takeWhile word
  have whole : word.takeWhile isWordChar ++ word.dropWhile isWordChar = word :=
    List.takeWhile_append_dropWhile
  by_cases hyphen : (word.dropWhile isWordChar).head? = some '-'
  · obtain ⟨more, behind⟩ := List.head?_eq_some_iff.mp hyphen
    have first : word.takeWhile isWordChar ≠ [] := by
      intro absent
      rw [hyphenatedWord_of_no_word absent] at closed
      rw [← closed] at behind
      cases behind
    rw [hyphenatedWord_eq_of_hyphen first behind] at closed
    rw [behind] at whole
    -- The word ends with its second run, so this run is all that is behind the hyphen.
    have second : more.takeWhile isWordChar = more :=
      (List.cons.inj (List.append_cancel_left (closed.trans whole.symm))).2
    have later := isWordChar_of_mem_takeWhile more
    rw [second] at later
    have parted : word ++ rest = word.takeWhile isWordChar ++ '-' :: (more ++ rest) := by
      conv => lhs; rw [← whole]
      simp
    have stop : ('-' :: (more ++ rest)).head?.any isWordChar = false := rfl
    have run : (word ++ rest).takeWhile isWordChar = word.takeWhile isWordChar := by
      rw [parted, Text.takeWhile_run inside stop]
    have further : (word ++ rest).dropWhile isWordChar = '-' :: (more ++ rest) := by
      rw [parted, Text.dropWhile_run inside stop]
    rw [hyphenatedWord_eq_of_hyphen (run ▸ first) further, run, Text.takeWhile_run later ends,
      whole]
  · have single := closed
    rw [hyphenatedWord_of_not_hyphen hyphen] at single
    rw [single] at inside
    have plain : '-' ∉ word := fun member => absurd (inside '-' member) (by decide)
    have stops : ((word ++ rest).dropWhile isWordChar).head? ≠ some '-' := by
      rw [Text.dropWhile_run inside ends]
      exact noHyphen plain
    rw [hyphenatedWord_of_not_hyphen stops, Text.takeWhile_run inside ends]

theorem keywordLength?_eq_some_iff :
    keywordLength? line = some length ↔ ∃ indent keyword rest,
      OpensWith line indent keyword rest ∧ length = (indent ++ keyword).length := by
  have cut : line.takeWhile isWhitespace ++ line.dropWhile isWhitespace = line :=
    List.takeWhile_append_dropWhile
  simp only [keywordLength?, Option.ite_none_right_eq_some, Option.some.injEq,
    List.contains_iff_mem]
  constructor
  · rintro ⟨listed, rfl⟩
    obtain ⟨present, -⟩ := hyphenatedWord_of_mem_keywords listed
    obtain ⟨behind, body, ends, noHyphen⟩ := exists_behind_hyphenatedWord present
    rw [body] at cut
    exact ⟨_, _, behind, ⟨cut.symm, rfl, listed, ends, noHyphen⟩, List.length_append.symm⟩
  · rintro ⟨indent, keyword, rest, opens, rfl⟩
    have body : line.dropWhile isWhitespace = keyword ++ rest := by
      rw [← opens.indent] at cut
      exact List.append_cancel_left (cut.trans opens.whole)
    obtain ⟨-, closed⟩ := hyphenatedWord_of_mem_keywords opens.listed
    rw [body, hyphenatedWord_append closed opens.ends opens.noHyphen, ← opens.indent]
    exact ⟨opens.listed, List.length_append.symm⟩

theorem exists_tokenizeLine_eq_cons (nonempty : line ≠ []) :
    ∃ first others, tokenizeLine line = first :: others ∧
      first.category = (classifyStart true line).1 ∧
      first.text = line.take (classifyStart true line).2 ∧
      first.span = ⟨0, first.text.size⟩ ∧
      ∀ other ∈ others, other.category ≠ .keyword ∧ 0 < other.span.start := by
  cases line with
  | nil => exact absurd rfl nonempty
  | cons c more =>
    obtain ⟨first, others, tokens, category, text, plain⟩ := tokenizeLine_cons c more
    have cut := tokenizeLine_cuts (c :: more)
    rw [tokens] at cut
    obtain ⟨present, span, rest, -, later⟩ := cut.of_cons
    rw [Nat.zero_add] at span later
    have further := Text.size_pos present
    refine ⟨first, others, tokens, category, text, span, fun other member => ?_⟩
    refine ⟨plain other member, ?_⟩
    exact Nat.lt_of_lt_of_le further (later.bounds other member).1

theorem OpensWith.exists_first_token (opens : OpensWith line indent keyword rest) :
    ∃ first others, tokenizeLine line = first :: others ∧ first.category = .keyword ∧
      first.text = indent ++ keyword ∧ first.span = ⟨0, Text.size (indent ++ keyword)⟩ ∧
      ∀ other ∈ others, 0 < other.span.start := by
  obtain ⟨present, -⟩ := hyphenatedWord_of_mem_keywords opens.listed
  have nonempty : line ≠ [] := by
    rw [opens.whole]
    simp [present]
  have found : keywordLength? line = some (indent ++ keyword).length :=
    keywordLength?_eq_some_iff.mpr ⟨indent, keyword, rest, opens, rfl⟩
  obtain ⟨first, others, tokens, category, text, span, behind⟩ :=
    exists_tokenizeLine_eq_cons nonempty
  simp only [classifyStart, if_true, found] at category text
  rw [opens.whole, ← List.append_assoc, List.take_left] at text
  rw [text] at span
  exact ⟨first, others, tokens, category, text, span, fun other member => (behind other member).2⟩

theorem exists_opensWith (member : token ∈ tokenizeLine line) (shown : token.category = .keyword) :
    token.span.start = 0 ∧ ∃ indent keyword rest, OpensWith line indent keyword rest := by
  have nonempty : line ≠ [] := by
    rintro rfl
    rw [tokenizeLine, LineScanner.ofLine, LineScanner.tokens_nil] at member
    cases member
  obtain ⟨first, others, tokens, category, -, span, behind⟩ := exists_tokenizeLine_eq_cons nonempty
  rw [tokens] at member
  rcases List.mem_cons.mp member with rfl | later
  · refine ⟨by rw [span], ?_⟩
    cases found : keywordLength? line with
    | none =>
      have start : classifyStart true line = classifyStart false line := by
        simp [classifyStart, found]
      rw [start] at category
      exact absurd (category.symm.trans shown) (category_classifyStart_false line)
    | some length =>
      obtain ⟨indent, keyword, rest, opens, -⟩ := keywordLength?_eq_some_iff.mp found
      exact ⟨indent, keyword, rest, opens⟩
  · exact absurd shown (behind token later).1

theorem IsLine.exists_inner (whole : IsLine front line back)
    (member : token ∈ tokenize (front ++ (line ++ back))) (start : front.size ≤ token.span.start)
    (stop : token.span.start < front.size + line.size) :
    ∃ inner ∈ tokenizeLine line, token = inner.shift front.size := by
  rw [whole.tokenize_eq] at member
  rcases List.mem_append.mp member with above | member
  · have bounds := (tokenize_cuts front).bounds token above
    omega
  · rcases List.mem_append.mp member with within | below
    · obtain ⟨inner, inside, rfl⟩ := List.mem_map.mp within
      exact ⟨inner, inside, rfl⟩
    · obtain ⟨other, -, rfl⟩ := List.mem_map.mp below
      have further : front.size + line.size ≤ (other.shift (front.size + line.size)).span.start :=
        Nat.le_add_left _ _
      omega

theorem countP_keyword_tokenizeLine (line : Text) (p : Token → Bool)
    (shown : ∀ token, p token → token.category = .keyword) : (tokenizeLine line).countP p ≤ 1 := by
  cases line with
  | nil => simp [tokenizeLine, LineScanner.ofLine, LineScanner.tokens_nil]
  | cons c more =>
    obtain ⟨first, others, tokens, -, -, plain⟩ := tokenizeLine_cons c more
    have none : others.countP p = 0 :=
      List.countP_eq_zero.mpr fun other member held => plain other member (shown other held)
    rw [tokens, List.countP_cons, none, Nat.zero_add]
    split <;> decide

theorem KeywordAt.exists_token {place : Nat} (opens : KeywordAt source place opening) :
    ∃ first ∈ tokenize source, first.category = .keyword ∧ first.text = opening ∧
      first.span = ⟨place, place + opening.size⟩ ∧
      ∀ token ∈ tokenize source, token.span.start = place → token = first := by
  cases opens with
  | @opens front line back indent keyword rest split whole opens =>
    subst split
    obtain ⟨first, others, tokens, category, text, span, behind⟩ := opens.exists_first_token
    refine ⟨first.shift front.size, ?_, category, text, ?_, fun token member start => ?_⟩
    · rw [whole.tokenize_eq, tokens]
      simp
    · simp only [Token.shift, span, ByteRange.shift, Nat.zero_add, Nat.add_comm]
    · obtain ⟨present, -⟩ := hyphenatedWord_of_mem_keywords opens.listed
      have width : 0 < line.size := by
        apply Text.size_pos
        rw [opens.whole]
        simp [present]
      obtain ⟨inner, inside, rfl⟩ := whole.exists_inner member (Nat.le_of_eq start.symm) (by omega)
      rw [tokens] at inside
      rcases List.mem_cons.mp inside with rfl | later
      · rfl
      · have further := behind inner later
        simp only [Token.shift, ByteRange.shift] at start
        omega

theorem exists_keywordAt (member : token ∈ tokenize source) (shown : token.category = .keyword) :
    ∃ opening, KeywordAt source token.span.start opening := by
  rcases exists_line_of_mem_tokenize member with
    ⟨place, rfl⟩ | ⟨front, line, back, rfl, whole, inner, inside, rfl⟩
  · cases shown
  · obtain ⟨start, indent, keyword, rest, opens⟩ := exists_opensWith inside shown
    have placed : (inner.shift front.size).span.start = front.size := by
      simp only [Token.shift, ByteRange.shift, start, Nat.zero_add]
    rw [placed]
    exact ⟨_, .opens rfl whole opens⟩

theorem IsLine.countP_keyword (whole : IsLine front line back) :
    (tokenize (front ++ (line ++ back))).countP (fun token => token.category = .keyword ∧
      front.size ≤ token.span.start ∧ token.span.start < front.size + line.size) ≤ 1 := by
  rw [whole.tokenize_eq, List.countP_append, List.countP_append, List.countP_map]
  have above : (tokenize front).countP (fun token => token.category = .keyword ∧
      front.size ≤ token.span.start ∧ token.span.start < front.size + line.size) = 0 := by
    refine List.countP_eq_zero.mpr fun token member held => ?_
    have bounds := (tokenize_cuts front).bounds token member
    have := of_decide_eq_true held
    omega
  have below : ((tokenize back).map (·.shift (front.size + line.size))).countP (fun token =>
      token.category = .keyword ∧ front.size ≤ token.span.start ∧
        token.span.start < front.size + line.size) = 0 := by
    refine List.countP_eq_zero.mpr fun token member held => ?_
    obtain ⟨other, -, rfl⟩ := List.mem_map.mp member
    have := of_decide_eq_true held
    simp only [Token.shift, ByteRange.shift] at this
    omega
  rw [above, below, Nat.zero_add, Nat.add_zero]
  exact countP_keyword_tokenizeLine line _ fun token held => (of_decide_eq_true held).1

/-- A token is a keyword exactly if it begins where a line begins that opens with one, and then
it is the indent of that line with the keyword. Each line that opens with a keyword has such a
token, and no line has two. -/
theorem keyword_tokens (source : Text) :
    (∀ token ∈ tokenize source,
      (token.category = .keyword ↔ ∃ opening, KeywordAt source token.span.start opening) ∧
        ∀ opening, KeywordAt source token.span.start opening →
          token.text = opening ∧ token.span.stop = token.span.start + opening.size) ∧
      (∀ place opening, KeywordAt source place opening →
        ∃ token ∈ tokenize source, token.category = .keyword ∧
          token.span = ⟨place, place + opening.size⟩) ∧
      ∀ front line back : Text, source = front ++ (line ++ back) → IsLine front line back →
        (tokenize source).countP (fun token => token.category = .keyword ∧
          front.size ≤ token.span.start ∧ token.span.start < front.size + line.size) ≤ 1 := by
  refine ⟨fun token member => ⟨⟨exists_keywordAt member, ?_⟩, ?_⟩, ?_, ?_⟩
  · rintro ⟨opening, opens⟩
    obtain ⟨first, -, category, -, -, only⟩ := opens.exists_token
    rw [only token member rfl, category]
  · intro opening opens
    obtain ⟨first, -, -, text, span, only⟩ := opens.exists_token
    obtain rfl := only token member rfl
    exact ⟨text, congrArg ByteRange.stop span⟩
  · intro place opening opens
    obtain ⟨first, member, category, -, span, -⟩ := opens.exists_token
    exact ⟨first, member, category, span⟩
  · rintro front line back rfl whole
    exact whole.countP_keyword

/-- A keyword with a hyphen ends in front of a second one. -/
theorem keyword_tokens_of_second_hyphen :
    let source : Text := "end-\n\u00a0architecture-beta-x".toList
    let opening : Text := "\u00a0architecture-beta".toList
    KeywordAt source 5 opening ∧
      ∃ token ∈ tokenize source, token.category = .keyword ∧ token.span = ⟨5, 24⟩ := by
  intro source opening
  have line : IsLine "end-\n".toList "\u00a0architecture-beta-x".toList [] :=
    ⟨.inr rfl, by decide, .inl rfl⟩
  have opens : OpensWith "\u00a0architecture-beta-x".toList "\u00a0".toList
      "architecture-beta".toList "-x".toList :=
    ⟨by decide, by decide, by decide, rfl, fun absent => absurd (by decide) absent⟩
  have whole : source = "end-\n".toList ++ ("\u00a0architecture-beta-x".toList ++ []) := by decide
  have start : Text.size "end-\n".toList = 5 := by decide
  have parted : "\u00a0".toList ++ "architecture-beta".toList = opening := by decide
  have stop : 5 + opening.size = 24 := by decide
  have there := KeywordAt.opens whole line opens
  rw [start, parted] at there
  obtain ⟨-, found, -⟩ := keyword_tokens source
  rw [← stop]
  exact ⟨there, found 5 opening there⟩

end DiagramEditor.Syntax

import DiagramEditor.Proofs.Syntax.FirstToken

/-! Strings and quotes that open none. A string runs from one delimiter to the next of its kind on
the same line. A delimiter is plain text only if there is no other of its kind further on in its
line, for that would close it, whatever stands between them; so it is the last of its kind there,
alone as plain text, with all strings of its kind before it. -/
namespace DiagramEditor.Syntax

variable {source line front rest text behind : Text} {category : Category} {quote : Quote}
  {token bare other : Token}

/-- A string: a body between two delimiters, without a third one and on one line. -/
structure Token.IsQuoted (token : Token) (quote : Quote) : Prop where
  category : token.category = .string
  text : ∃ body, token.text = quote.delimiter :: (body ++ [quote.delimiter]) ∧
    quote.delimiter ∉ body ∧ '\n' ∉ body

/-- A delimiter that is plain text. -/
def Token.IsBare (token : Token) (quote : Quote) : Prop :=
  token.category = .plain ∧ token.text = [quote.delimiter]

instance (token : Token) (quote : Quote) : Decidable (token.IsBare quote) :=
  inferInstanceAs (Decidable (_ ∧ _))

theorem exists_isQuoted (member : token ∈ tokenize source) (string : token.category = .string) :
    ∃ quote, token.IsQuoted quote := by
  have single := newline_not_mem_of_ne_plain member (by rw [string]; nofun)
  rcases exists_hasPlace member with ⟨place, rfl⟩ | ⟨above, front, behind, below, placed⟩
  · cases string
  · have first := placed.first
    generalize spelled : token.text = text at first single
    rw [string] at first
    cases first with
    | @string quote body _ outside =>
      refine ⟨quote, string, body, spelled, outside, fun newline => single ?_⟩
      exact List.mem_cons_of_mem _ (List.mem_append_left _ newline)

theorem delimiter_not_mem_of_quotedLength? {delimiter : Char}
    (refused : Rule.quotedLength? delimiter (delimiter :: behind) = none) : delimiter ∉ behind := by
  intro member
  obtain ⟨body, back, rfl, outside⟩ := List.eq_append_cons_of_mem member
  cases refused.symm.trans (Rule.quotedLength?_eq_some.mpr ⟨body, back, rfl, outside, rfl⟩)

theorem FirstToken.delimiter_not_mem {atLineStart : Bool}
    (first : FirstToken atLineStart .plain [quote.delimiter] behind) :
    quote.delimiter ∉ behind := by
  cases first with
  | plain refused => exact delimiter_not_mem_of_quotedLength? (refused (.quoted quote))

/-- What is left of the line behind a token. -/
theorem Token.HasPlace.takeWhile_dropBytes {above below : Text}
    (placed : token.HasPlace source above front behind below) :
    (source.dropBytes token.span.stop).takeWhile (· ≠ '\n') = behind := by
  have whole : source = (above ++ front ++ token.text) ++ (behind ++ below) := by
    rw [placed.whole]
    simp only [List.append_assoc]
  have stop : token.span.stop = Text.size (above ++ front ++ token.text) := by
    rw [placed.span, Text.size_append (above ++ front)]
  have inside : ∀ c ∈ behind, decide (c ≠ '\n') = true := by
    intro c member
    refine decide_eq_true fun newline => placed.line.inside ?_
    subst newline
    exact List.mem_append_right _ (List.mem_append_right _ member)
  have ends : below.head?.any (fun c => decide (c ≠ '\n')) = false := by
    rcases placed.line.stop with rfl | newline
    · rfl
    · rw [newline]
      rfl
  rw [stop, whole, Text.dropBytes_size_append]
  exact Text.takeWhile_run inside ends

theorem Token.IsBare.not_mem_line (plain : bare.IsBare quote) (member : bare ∈ tokenize source) :
    quote.delimiter ∉ (source.dropBytes bare.span.stop).takeWhile (· ≠ '\n') := by
  obtain ⟨category, text⟩ := plain
  rcases exists_hasPlace member with ⟨place, rfl⟩ | ⟨above, front, behind, below, placed⟩
  · cases quote <;> cases text
  · have first := placed.first
    rw [category, text] at first
    rw [placed.takeWhile_dropBytes]
    exact first.delimiter_not_mem

/-- On a line, no token behind a delimiter that is plain text has another of its kind. -/
theorem Token.IsBare.not_mem_text (plain : bare.IsBare quote) (member : bare ∈ tokenizeLine line)
    (listed : other ∈ tokenizeLine line) (later : bare.span.start < other.span.start) :
    quote.delimiter ∉ other.text := by
  obtain ⟨category, text⟩ := plain
  obtain ⟨front, behind, stands, first, span⟩ := exists_standsBetween member
  obtain ⟨front', behind', stands', -, span'⟩ := exists_standsBetween listed
  rw [category, text] at first
  have whole : line = front ++ bare.text ++ behind := by rw [stands.whole, List.append_assoc]
  have width : bare.text.size = 1 := by
    rw [text]
    cases quote <;> rfl
  have begins : front ++ bare.text <+: front' := by
    refine Text.prefix_of_size_le ⟨behind, whole.symm⟩ ⟨_, stands'.whole.symm⟩ ?_
    rw [span, span'] at later
    rw [Text.size_append, width]
    exact later
  obtain ⟨between, rfl⟩ := begins
  have left : behind = between ++ (other.text ++ behind') := by
    have parted := stands'.whole
    rw [whole, List.append_assoc (front ++ bare.text)] at parted
    exact List.append_cancel_left parted
  have absent := first.delimiter_not_mem
  rw [left] at absent
  exact fun inside => absent (List.mem_append_right _ (List.mem_append_left _ inside))

theorem IsLine.delimiter_not_mem {back : Text} (whole : IsLine front line back)
    (plain : bare.IsBare quote) (member : bare ∈ tokenize (front ++ (line ++ back)))
    (here : (⟨front.size, front.size + line.size⟩ : ByteRange).Covers bare.span.start)
    (listed : other ∈ tokenize (front ++ (line ++ back)))
    (there : (⟨front.size, front.size + line.size⟩ : ByteRange).Covers other.span.start)
    (later : bare.span.start < other.span.start) : quote.delimiter ∉ other.text := by
  obtain ⟨inner, inside, rfl⟩ := whole.exists_inner member here.1 here.2
  obtain ⟨inner', inside', rfl⟩ := whole.exists_inner listed there.1 there.2
  -- A shift moves neither the text nor the category.
  have unmoved : inner.IsBare quote := plain
  have order : inner.span.start < inner'.span.start := Nat.lt_of_add_lt_add_right later
  have absent : quote.delimiter ∉ inner'.text := unmoved.not_mem_text inside inside' order
  exact absent

theorem countP_le_one_of_pairwise {α : Type} {R : α → α → Prop} {p : α → Bool} {row : List α}
    (order : row.Pairwise R)
    (alone : ∀ first ∈ row, ∀ second ∈ row, p first → p second → ¬R first second) :
    row.countP p ≤ 1 := by
  induction order with
  | nil => exact Nat.zero_le 1
  | @cons first more behind _ ih =>
    have later := ih fun one member other listed =>
      alone one (List.mem_cons_of_mem _ member) other (List.mem_cons_of_mem _ listed)
    by_cases held : p first
    · have none : more.countP p = 0 := List.countP_eq_zero.mpr fun second member also =>
        alone first List.mem_cons_self second (List.mem_cons_of_mem _ member) held also
          (behind second member)
      rw [List.countP_cons, none, if_pos held]
    · rwa [List.countP_cons, if_neg held]

theorem IsLine.countP_bare {back : Text} (whole : IsLine front line back) (quote : Quote) :
    (tokenize (front ++ (line ++ back))).countP (fun token => token.IsBare quote ∧
      (⟨front.size, front.size + line.size⟩ : ByteRange).Covers token.span.start) ≤ 1 := by
  have cut := tokenize_cuts (front ++ (line ++ back))
  refine countP_le_one_of_pairwise cut.pairwise ?_
  intro first member second listed one two behind
  obtain ⟨plain, here⟩ := of_decide_eq_true one
  obtain ⟨also, there⟩ := of_decide_eq_true two
  have bounds := cut.bounds first member
  refine whole.delimiter_not_mem plain member here listed there (by omega) ?_
  rw [also.2]
  exact List.mem_cons_self

theorem IsLine.start_lt_of_isQuoted {back : Text} (whole : IsLine front line back)
    (plain : bare.IsBare quote) (member : bare ∈ tokenize (front ++ (line ++ back)))
    (here : (⟨front.size, front.size + line.size⟩ : ByteRange).Covers bare.span.start)
    (quoted : token.IsQuoted quote) (listed : token ∈ tokenize (front ++ (line ++ back)))
    (there : (⟨front.size, front.size + line.size⟩ : ByteRange).Covers token.span.start) :
    token.span.start < bare.span.start := by
  have cut := tokenize_cuts (front ++ (line ++ back))
  obtain ⟨body, text, -⟩ := quoted.text
  have different : bare ≠ token := by
    rintro rfl
    cases plain.1.symm.trans quoted.category
  rcases cut.disjoint member listed different with behind | before
  · -- The string would have closed at the delimiter, or begun there.
    have bounds := cut.bounds bare member
    refine absurd ?_ (whole.delimiter_not_mem plain member here listed there (by omega))
    rw [text]
    exact List.mem_cons_self
  · have bounds := cut.bounds token listed
    omega

/-- Strings are what stands between two delimiters of a kind on one line. A delimiter that is plain
text has no other of its kind behind it on its line; so there is no second one there, and the
strings of its kind are all before it. -/
theorem string_tokens (source : Text) :
    (∀ token ∈ tokenize source, token.category = .string → ∃ quote, token.IsQuoted quote) ∧
      ∀ quote : Quote,
        (∀ bare ∈ tokenize source, bare.IsBare quote →
          quote.delimiter ∉ (source.dropBytes bare.span.stop).takeWhile (· ≠ '\n')) ∧
        ∀ front line back : Text, source = front ++ (line ++ back) → IsLine front line back →
          let place : ByteRange := ⟨front.size, front.size + line.size⟩
          (tokenize source).countP (fun token =>
            token.IsBare quote ∧ place.Covers token.span.start) ≤ 1 ∧
          ∀ bare ∈ tokenize source, bare.IsBare quote → place.Covers bare.span.start →
            ∀ token ∈ tokenize source, token.IsQuoted quote → place.Covers token.span.start →
              token.span.start < bare.span.start := by
  refine ⟨fun token => exists_isQuoted, fun quote => ⟨fun bare member plain =>
    plain.not_mem_line member, ?_⟩⟩
  rintro front line back rfl whole place
  exact ⟨whole.countP_bare quote, fun bare member plain here token listed quoted there =>
    whole.start_lt_of_isQuoted plain member here quoted listed there⟩

/-- An apostrophe behind a string in apostrophes and one that a string of the other kind takes in,
with one more on the next line. -/
theorem string_tokens_of_apostrophe :
    let line : Text := "'\u00e9' \"it's\" don't \"x\"".toList
    let source : Text := line ++ "\n'".toList
    let bare : Token := ⟨.plain, ['\''], ⟨15, 16⟩⟩
    (∃ quote, Token.IsQuoted ⟨.string, "\"it's\"".toList, ⟨5, 11⟩⟩ quote) ∧
      '\'' ∉ (source.dropBytes bare.span.stop).takeWhile (· ≠ '\n') ∧
      (tokenize source).countP (fun token =>
        token.IsBare .single ∧ (⟨0, 21⟩ : ByteRange).Covers token.span.start) ≤ 1 ∧
      ∀ token ∈ tokenize source, token.IsQuoted .single →
        (⟨0, 21⟩ : ByteRange).Covers token.span.start → token.span.start < 15 := by
  intro line source bare
  have string : ⟨.string, "\"it's\"".toList, ⟨5, 11⟩⟩ ∈ tokenize source := by decide +kernel
  have member : bare ∈ tokenize source := by decide +kernel
  have plain : bare.IsBare .single := by decide
  have whole : IsLine [] line "\n'".toList := ⟨.inl rfl, by decide, .inr rfl⟩
  have covers : (⟨Text.size [], Text.size [] + line.size⟩ : ByteRange).Covers bare.span.start := by
    decide
  have width : (⟨Text.size [], Text.size [] + line.size⟩ : ByteRange) = ⟨0, 21⟩ := by decide
  obtain ⟨quoted, kinds⟩ := string_tokens source
  obtain ⟨unclosed, lines⟩ := kinds .single
  obtain ⟨alone, before⟩ := lines [] line "\n'".toList rfl whole
  rw [width] at alone covers before
  exact ⟨quoted _ string rfl, unclosed bare member plain, alone, before bare member plain covers⟩

end DiagramEditor.Syntax

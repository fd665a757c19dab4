import DiagramEditor.Proofs.Syntax.Match
import DiagramEditor.Proofs.Text.Run
import DiagramEditor.Proofs.Text.Trim

/-! White space and matches. No match begins with white space, and none looks past the
last other character of a line: what a rule or a keyword reads beyond its end is only
whether the match goes on there, and white space never goes on. So a blank at the end of
a line changes no match in front of it. -/
namespace DiagramEditor.Syntax

variable {blank rest : Text}

theorem not_isWhitespace {c : Char} (above : 0x21 ≤ c.toNat) (below : c.toNat ≤ 0x7E) :
    isWhitespace c = false := by
  simp only [isWhitespace, whitespaceRanges, List.any_cons, List.any_nil, Bool.or_false,
    Bool.or_eq_false_iff, Bool.and_eq_false_iff, decide_eq_false_iff_not]
  omega

theorem not_isWhitespace_of_isWordChar {c : Char} (word : isWordChar c) :
    isWhitespace c = false := by
  rcases Bool.or_eq_true_iff.mp word with alphanumeric | underscore
  · obtain ⟨above, below⟩ := Text.bounds_of_isAlphanum alphanumeric
    exact not_isWhitespace (by omega) (by omega)
  · rw [of_decide_eq_true underscore]
    decide

/-- A class of characters to which no white space belongs. -/
def IsDark (p : Char → Bool) : Prop := ∀ c, p c → isWhitespace c = false

theorem isDark_isWordChar : IsDark isWordChar := fun _ => not_isWhitespace_of_isWordChar

theorem isDark_isQualifiedChar : IsDark isQualifiedChar := by
  intro c member
  rcases Bool.or_eq_true_iff.mp member with word | hyphen
  · exact not_isWhitespace_of_isWordChar word
  · rw [of_decide_eq_true hyphen]
    decide

theorem isDark_isDigit : IsDark Char.isDigit := by
  intro c digit
  exact not_isWhitespace_of_isWordChar (isWordChar_of_isDigit digit)

theorem isDark_brackets : IsDark (Rule.brackets.contains ·) := by
  intro c listed
  have all : Rule.brackets.all (!isWhitespace ·) := by decide
  simpa using List.all_eq_true.mp all c (List.contains_iff_mem.mp listed)

theorem not_isWhitespace_of_mem_connector {word : Text} (listed : word ∈ Rule.connectors) :
    ∀ c ∈ word, isWhitespace c = false := by
  have all : Rule.connectors.all (·.all (!isWhitespace ·)) := by decide
  intro c member
  simpa using List.all_eq_true.mp (List.all_eq_true.mp all word listed) c member

theorem not_isWhitespace_delimiter (quote : Quote) : isWhitespace quote.delimiter = false := by
  cases quote <;> decide

section Tail

variable (white : blank.IsBlank)
include white

theorem takeWhile_append_blank {p : Char → Bool} (dark : IsDark p) (rest : Text) :
    (rest ++ blank).takeWhile p = rest.takeWhile p := by
  induction rest with
  | nil =>
    cases blank with
    | nil => rfl
    | cons c more =>
      apply List.takeWhile_cons_of_neg
      intro member
      exact white.not_mem (dark c member) List.mem_cons_self
  | cons c more ih => simp only [List.cons_append, List.takeWhile_cons, ih]

theorem dropWhile_append_blank {p : Char → Bool} (dark : IsDark p) (rest : Text) :
    (rest ++ blank).dropWhile p = rest.dropWhile p ++ blank := by
  have whole : (rest ++ blank).takeWhile p ++ (rest ++ blank).dropWhile p =
      rest.takeWhile p ++ (rest.dropWhile p ++ blank) := by
    rw [List.takeWhile_append_dropWhile, ← List.append_assoc, List.takeWhile_append_dropWhile]
  rw [takeWhile_append_blank white dark] at whole
  exact List.append_cancel_left whole

theorem any_head?_append_blank {p : Char → Bool} (dark : IsDark p) (rest : Text) :
    (rest ++ blank).head?.any p = rest.head?.any p := by
  cases rest with
  | nil =>
    cases blank with
    | nil => rfl
    | cons c more =>
      have outside : ¬ p c := fun member => white.not_mem (dark c member) List.mem_cons_self
      simpa using outside
  | cons c more => rfl

theorem isPrefixOf_append_blank {word : Text} (dark : ∀ c ∈ word, isWhitespace c = false)
    (rest : Text) : word.isPrefixOf (rest ++ blank) = word.isPrefixOf rest := by
  induction word generalizing rest with
  | nil => rfl
  | cons d word ih =>
    cases rest with
    | nil =>
      cases blank with
      | nil => rfl
      | cons c more =>
        have different : d ≠ c := by
          rintro rfl
          exact white.not_mem (dark d List.mem_cons_self) List.mem_cons_self
        simp [List.isPrefixOf, different]
    | cons c more =>
      have later := ih (fun e member => dark e (List.mem_cons_of_mem _ member)) more
      simp only [List.cons_append, List.isPrefixOf, later]

namespace Rule

theorem connector?_append_blank (rest : Text) : connector? (rest ++ blank) = connector? rest := by
  rw [connector?, connector?, ← List.head?_filter, ← List.head?_filter]
  congr 1
  exact List.filter_congr fun word listed =>
    isPrefixOf_append_blank white (not_isWhitespace_of_mem_connector listed) rest

theorem quotedLength?_append_blank {delimiter : Char} (dark : isWhitespace delimiter = false)
    (rest : Text) : quotedLength? delimiter (rest ++ blank) = quotedLength? delimiter rest := by
  have absent := white.not_mem dark
  apply Option.ext
  intro length
  rw [quotedLength?_eq_some, quotedLength?_eq_some]
  constructor
  · rintro ⟨body, back, whole, outside, rfl⟩
    rcases List.append_eq_cons_iff.mp whole with ⟨-, rfl⟩ | ⟨more, rfl, eq⟩
    · exact absurd List.mem_cons_self absent
    · -- The closing delimiter stands in front of the blank, since none stands in it.
      rcases List.append_eq_append_iff.mp eq with ⟨front, rfl, closing⟩ | ⟨front, -, rfl⟩
      · rcases List.append_eq_cons_iff.mp closing.symm with ⟨-, rfl⟩ | ⟨behind, rfl, -⟩
        · exact absurd List.mem_cons_self absent
        · exact ⟨body, behind, rfl, outside, rfl⟩
      · exact absurd (List.mem_append_right _ List.mem_cons_self) absent
  · rintro ⟨body, back, rfl, outside, rfl⟩
    exact ⟨body, back ++ blank, by simp, outside, rfl⟩

theorem qualifiedLength?_append_blank (rest : Text) :
    qualifiedLength? (rest ++ blank) = qualifiedLength? rest := by
  unfold qualifiedLength?
  simp only [takeWhile_append_blank white isDark_isWordChar,
    dropWhile_append_blank white isDark_isWordChar]
  cases rest.dropWhile isWordChar with
  | nil =>
    cases blank with
    | nil => rfl
    | cons c more =>
      have other : c ≠ ':' := by
        rintro rfl
        exact white.not_mem (by decide) List.mem_cons_self
      simp [other]
  | cons c more =>
    by_cases colon : c = ':'
    · simp [colon, takeWhile_append_blank white isDark_isQualifiedChar]
    · simp [colon]

theorem digitLength?_append_blank (rest : Text) :
    digitLength? (rest ++ blank) = digitLength? rest := by
  simp only [digitLength?, takeWhile_append_blank white isDark_isDigit]

theorem length?_append_blank (rule : Rule) (rest : Text) :
    rule.length? (rest ++ blank) = rule.length? rest := by
  cases rule with
  | operator => simp only [length?, connector?_append_blank white]
  | bracket => simp only [length?, any_head?_append_blank white isDark_brackets]
  | quoted quote => exact quotedLength?_append_blank white (not_isWhitespace_delimiter quote) rest
  | qualifiedName => exact qualifiedLength?_append_blank white rest
  | number => exact digitLength?_append_blank white rest

end Rule

theorem longestMatch?_append_blank (rest : Text) :
    longestMatch? (rest ++ blank) = longestMatch? rest := by
  simp only [longestMatch?, Rule.length?_append_blank white]

theorem readsPastDigits_append_blank (rest : Text) :
    readsPastDigits (rest ++ blank) = readsPastDigits rest := by
  have dark : IsDark fun c => isWordChar c || c = ':' := by
    intro c member
    rcases Bool.or_eq_true_iff.mp member with word | colon
    · exact not_isWhitespace_of_isWordChar word
    · rw [of_decide_eq_true colon]
      decide
  rw [readsPastDigits, dropWhile_append_blank white isDark_isDigit,
    any_head?_append_blank white dark, readsPastDigits]

theorem matchRule?_append_blank (rest : Text) : matchRule? (rest ++ blank) = matchRule? rest := by
  simp only [matchRule?_eq, longestMatch?_append_blank white, readsPastDigits_append_blank white,
    Rule.digitLength?_append_blank white]

theorem hyphenatedWord_append_blank (rest : Text) :
    hyphenatedWord (rest ++ blank) = hyphenatedWord rest := by
  simp only [hyphenatedWord, takeWhile_append_blank white isDark_isWordChar,
    dropWhile_append_blank white isDark_isWordChar]
  cases rest.dropWhile isWordChar with
  | nil =>
    cases blank with
    | nil => rfl
    | cons c more =>
      have other : c ≠ '-' := by
        rintro rfl
        exact white.not_mem (by decide) List.mem_cons_self
      simp [other]
  | cons c more =>
    by_cases hyphen : c = '-'
    · simp [hyphen, takeWhile_append_blank white isDark_isWordChar]
    · simp [hyphen]

theorem keywordLength?_of_isBlank : keywordLength? blank = none := by
  have bare : blank.dropWhile isWhitespace = [] := Text.trimStart_of_isBlank white
  simp only [keywordLength?, bare]
  rfl

/-- A keyword stands as many characters further right as there are in front of its line. -/
theorem keywordLength?_blank_append (line : Text) :
    keywordLength? (blank ++ line) = (keywordLength? line).map (blank.length + ·) := by
  simp only [keywordLength?, List.takeWhile_append_of_pos white, List.dropWhile_append_of_pos white,
    List.length_append, Nat.add_assoc]
  split <;> rfl

theorem keywordLength?_append_blank (line : Text) :
    keywordLength? (line ++ blank) = keywordLength? line := by
  have indent := Text.isBlank_takeWhile line
  have whole : line.takeWhile isWhitespace ++ line.dropWhile isWhitespace = line :=
    List.takeWhile_append_dropWhile
  cases body : line.dropWhile isWhitespace with
  | nil =>
    rw [body, List.append_nil] at whole
    rw [whole] at indent
    have both : Text.IsBlank (line ++ blank) := by
      intro c member
      rcases List.mem_append.mp member with front | back
      · exact indent c front
      · exact white c back
    rw [keywordLength?_of_isBlank indent, keywordLength?_of_isBlank both]
  | cons c more =>
    have dark : ¬ isWhitespace c := by
      have first := List.head?_dropWhile_not isWhitespace line
      rw [body] at first
      simpa using first
    rw [body] at whole
    rw [← whole, List.append_assoc, keywordLength?_blank_append indent,
      keywordLength?_blank_append indent, List.cons_append]
    simp only [keywordLength?, List.takeWhile_cons_of_neg dark, List.dropWhile_cons_of_neg dark]
    rw [← List.cons_append, hyphenatedWord_append_blank white]

theorem classifyStart_append_blank (atLineStart : Bool) (rest : Text) :
    classifyStart atLineStart (rest ++ blank) = classifyStart atLineStart rest := by
  simp only [classifyStart, keywordLength?_append_blank white, matchRule?_append_blank white]

end Tail

theorem Rule.not_isWhitespace_of_length? {rule : Rule} {c : Char} {more : Text} {length : Nat}
    (found : rule.length? (c :: more) = some length) : isWhitespace c = false := by
  cases rule with
  | operator =>
    obtain ⟨word, chosen, rfl⟩ := Option.map_eq_some_iff.mp found
    obtain ⟨listed, begins⟩ := connector?_begins chosen
    cases word with
    | nil => exact absurd (connector?_length found).1 (Nat.lt_irrefl 0)
    | cons d word =>
      obtain ⟨rfl, -⟩ := List.cons_prefix_cons.mp begins
      exact not_isWhitespace_of_mem_connector listed d List.mem_cons_self
  | bracket =>
    obtain ⟨listed, -⟩ : c ∈ brackets ∧ 1 = length := by simpa [length?] using found
    exact isDark_brackets c (List.contains_iff_mem.mpr listed)
  | quoted quote =>
    have closed : quotedLength? quote.delimiter (c :: more) = some length := found
    obtain ⟨body, back, whole, -, -⟩ := quotedLength?_eq_some.mp closed
    rw [(List.cons.inj whole).1]
    exact not_isWhitespace_delimiter quote
  | qualifiedName =>
    apply isDark_isWordChar
    apply Decidable.byContradiction
    intro other
    simp only [length?, qualifiedLength?, List.takeWhile_cons_of_neg other] at found
    split at found <;> simp at found
  | number =>
    apply isDark_isDigit
    apply Decidable.byContradiction
    intro other
    simp [length?, digitLength?, List.takeWhile_cons_of_neg other] at found

/-- White space is a token by itself, unless it is the indent of a keyword. -/
theorem classifyStart_of_isWhitespace {c : Char} (white : isWhitespace c) (more : Text) :
    classifyStart false (c :: more) = (.plain, 1) := by
  cases matched : matchRule? (c :: more) with
  | none => simp [classifyStart, matched]
  | some found =>
    have dark := Rule.not_isWhitespace_of_length? (matchRule?_sound matched)
    exact absurd (dark.symm.trans white) Bool.false_ne_true

end DiagramEditor.Syntax

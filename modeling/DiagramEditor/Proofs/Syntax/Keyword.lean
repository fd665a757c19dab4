import Mathlib.Data.List.TakeWhile
import DiagramEditor.Proofs.Syntax.Blank
import DiagramEditor.Proofs.Syntax.Scan

/-! Keyword tokens. Only the first token of a line may be a keyword, and it is one exactly if
the first word of the line, with a hyphen and what follows it at once, is in the table. The
word does not depend on the white space around the line. -/
namespace DiagramEditor.Syntax

variable {line rest word : Text}

theorem takeWhile_hyphenatedWord (rest : Text) :
    (hyphenatedWord rest).takeWhile isWordChar = rest.takeWhile isWordChar := by
  simp only [hyphenatedWord]
  split
  · split
    · rename_i empty
      rw [List.isEmpty_iff.mp empty, List.takeWhile_nil]
    · have inside : ∀ c ∈ rest.takeWhile isWordChar, isWordChar c :=
        List.all_eq_true.mp List.all_takeWhile
      rw [List.takeWhile_append_of_pos inside, List.takeWhile_cons_of_neg (by decide),
        List.append_nil]
  · exact List.takeWhile_idem

theorem hyphenatedWord_of_hyphen (present : rest.takeWhile isWordChar ≠ [])
    (hyphen : (rest.dropWhile isWordChar).head? = some '-') : '-' ∈ hyphenatedWord rest := by
  obtain ⟨more, behind⟩ := List.head?_eq_some_iff.mp hyphen
  simp [hyphenatedWord, behind, present]

theorem hyphenatedWord_of_not_hyphen (other : (rest.dropWhile isWordChar).head? ≠ some '-') :
    hyphenatedWord rest = rest.takeWhile isWordChar := by
  simp only [hyphenatedWord]
  split
  · rename_i more behind
    rw [behind] at other
    exact absurd rfl other
  · rfl

theorem hyphenatedWord_trim (line : Text) :
    hyphenatedWord (line.dropWhile isWhitespace) = hyphenatedWord line.trim := by
  obtain ⟨tail, white, whole⟩ := Text.exists_eq_trimEnd_append line.trimStart
  rw [Text.trim, ← hyphenatedWord_append_blank white line.trimStart.trimEnd, ← whole]
  rfl

theorem trim_of_mem_keywords (listed : keywords.contains (String.ofList word)) :
    word.trim = word := by
  have all : ∀ keyword ∈ keywords, Text.trim keyword.toList = keyword.toList := by decide
  simpa using all _ (List.contains_iff_mem.mp listed)

/-- What a keyword takes up is the indent of its line and the word behind it. -/
theorem keywordLength?_eq (line : Text) :
    keywordLength? line =
      if keywords.contains (String.ofList (hyphenatedWord line.trim)) then
        some (line.takeWhile isWhitespace ++ hyphenatedWord line.trim).length
      else none := by
  simp only [keywordLength?, hyphenatedWord_trim, List.length_append]

theorem indent_append_hyphenatedWord_begins (line : Text) :
    line.takeWhile isWhitespace ++ hyphenatedWord line.trim <+: line := by
  have whole : line.takeWhile isWhitespace ++ line.dropWhile isWhitespace = line :=
    List.takeWhile_append_dropWhile
  have begins := hyphenatedWord_begins (line.dropWhile isWhitespace)
  rw [hyphenatedWord_trim] at begins
  conv => rhs; rw [← whole]
  exact (List.prefix_append_right_inj _).mpr begins

theorem category_classifyStart_false (rest : Text) :
    (classifyStart false rest).1 ≠ .keyword := by
  simp only [classifyStart, Bool.false_eq_true, if_false]
  split
  · rename_i found matched
    cases found.rule <;> intro same <;> cases same
  · intro same
    cases same

/-- A scanner that has left the start of its line finds no keyword. -/
theorem category_of_mem_tokens {scanner : LineScanner} {token : Token}
    (further : scanner.position ≠ 0) (member : token ∈ scanner.tokens) :
    token.category ≠ .keyword := by
  fun_induction LineScanner.tokens scanner with
  | case1 scanner finished => contradiction
  | case2 scanner first behind step ih =>
    obtain ⟨position, rest, state⟩ := scanner
    obtain ⟨nonempty, -, -, stop⟩ := LineScanner.next?_cuts step
    have onward := Text.size_pos nonempty
    rcases List.mem_cons.mp member with rfl | later
    · cases rest with
      | nil => contradiction
      | cons c more =>
        rw [LineScanner.next?_cons, decide_eq_false further] at step
        cases step
        exact category_classifyStart_false (c :: more)
    · -- The position has grown, so it is not that of the start again.
      exact ih (by omega) later

/-- The first token of a line, and others that are no keywords. -/
theorem tokenizeLine_cons (c : Char) (more : Text) :
    ∃ token others, tokenizeLine (c :: more) = token :: others ∧
      token.category = (classifyStart true (c :: more)).1 ∧
      token.text = (c :: more).take (classifyStart true (c :: more)).2 ∧
      ∀ other ∈ others, other.category ≠ .keyword := by
  have step := LineScanner.next?_cons 0 c more {}
  obtain ⟨nonempty, -, -, stop⟩ := LineScanner.next?_cuts step
  have onward := Text.size_pos nonempty
  refine ⟨_, _, LineScanner.tokens_of_next? step, rfl, rfl, ?_⟩
  intro other member
  exact category_of_mem_tokens (by omega) member

theorem category_of_mem_tokenizeLine
    (unlisted : ¬keywords.contains (String.ofList (hyphenatedWord line.trim))) {token : Token}
    (member : token ∈ tokenizeLine line) : token.category ≠ .keyword := by
  cases line with
  | nil =>
    rw [tokenizeLine, LineScanner.ofLine, LineScanner.tokens_nil] at member
    contradiction
  | cons c more =>
    have missing : keywordLength? (c :: more) = none := by
      rw [keywordLength?_eq, if_neg unlisted]
    have start : classifyStart true (c :: more) = classifyStart false (c :: more) := by
      simp [classifyStart, missing]
    obtain ⟨first, others, tokens, category, -, plain⟩ := tokenizeLine_cons c more
    rw [tokens] at member
    rcases List.mem_cons.mp member with rfl | later
    · rw [category, start]
      exact category_classifyStart_false (c :: more)
    · exact plain token later

theorem tokenizeLine_of_keyword
    (listed : keywords.contains (String.ofList (hyphenatedWord line.trim))) :
    ∃ token others, tokenizeLine line = token :: others ∧ token.category = .keyword ∧
      token.text.trim = hyphenatedWord line.trim := by
  cases line with
  | nil => exact absurd listed (by decide)
  | cons c more =>
    have found := keywordLength?_eq (c :: more)
    rw [if_pos listed] at found
    have taken := List.prefix_iff_eq_take.mp (indent_append_hyphenatedWord_begins (c :: more))
    obtain ⟨first, others, tokens, category, text, -⟩ := tokenizeLine_cons c more
    simp only [classifyStart, if_true, found] at category text
    refine ⟨first, others, tokens, category, ?_⟩
    rw [text, ← taken, Text.trim_blank_append (Text.isBlank_takeWhile _),
      trim_of_mem_keywords listed]

/-- A line begins with a keyword token exactly if its first word is that keyword. -/
theorem head?_tokenizeLine_eq_keyword_iff :
    (∃ token, (tokenizeLine line).head? = some token ∧ token.category = .keyword ∧
      token.text.trim = word) ↔
      hyphenatedWord line.trim = word ∧ keywords.contains (String.ofList word) := by
  constructor
  · rintro ⟨token, first, keyword, rfl⟩
    by_cases listed : keywords.contains (String.ofList (hyphenatedWord line.trim))
    · obtain ⟨token', others, tokens, -, text⟩ := tokenizeLine_of_keyword listed
      rw [tokens, List.head?_cons, Option.some.injEq] at first
      rw [← first, text]
      exact ⟨rfl, listed⟩
    · exact absurd keyword (category_of_mem_tokenizeLine listed (List.mem_of_mem_head? first))
  · rintro ⟨rfl, listed⟩
    obtain ⟨token, others, tokens, keyword, text⟩ := tokenizeLine_of_keyword listed
    exact ⟨token, by rw [tokens, List.head?_cons], keyword, text⟩

end DiagramEditor.Syntax

import DiagramEditor.Syntax.Token

/-! How far matches reach. Every rule, and the keyword at the start of a line, matches
at least one character and no more than there are, so a scanner always moves on and
never reads past the end of its line. -/
namespace DiagramEditor.Syntax

variable {rest line : Text} {length : Nat}

theorem length_takeWhile_add_dropWhile (p : Char → Bool) (text : Text) :
    (text.takeWhile p).length + (text.dropWhile p).length = text.length := by
  rw [← List.length_append, List.takeWhile_append_dropWhile]

theorem drop_length_takeWhile (p : Char → Bool) (text : Text) :
    text.drop (text.takeWhile p).length = text.dropWhile p := by
  have parted : (text.takeWhile p ++ text.dropWhile p).drop (text.takeWhile p).length =
      text.dropWhile p := List.drop_left
  rwa [List.takeWhile_append_dropWhile] at parted

namespace Rule

theorem connector?_begins {word : Text} (found : connector? rest = some word) :
    word ∈ connectors ∧ word <+: rest := by
  unfold connector? at found
  have begins := List.find?_some found
  exact ⟨List.mem_of_find?_eq_some found, List.isPrefixOf_iff_prefix.mp begins⟩

theorem connector?_length (found : (connector? rest).map List.length = some length) :
    0 < length ∧ length ≤ rest.length := by
  obtain ⟨word, chosen, rfl⟩ := Option.map_eq_some_iff.mp found
  obtain ⟨listed, begins⟩ := connector?_begins chosen
  have nonempty : ∀ word ∈ connectors, 0 < word.length := by decide
  exact ⟨nonempty word listed, begins.length_le⟩

/-- A string opens at once and closes at the next delimiter. -/
theorem quotedLength?_eq_some {delimiter : Char} :
    quotedLength? delimiter rest = some length ↔
      ∃ body back, rest = delimiter :: (body ++ delimiter :: back) ∧ delimiter ∉ body ∧
        length = body.length + 2 := by
  constructor
  · intro found
    cases rest with
    | nil => contradiction
    | cons c more =>
      simp only [quotedLength?, Option.ite_none_right_eq_some, Option.some.injEq] at found
      obtain ⟨⟨rfl, closed⟩, rfl⟩ := found
      have whole : more.takeWhile (· ≠ c) ++ more.dropWhile (· ≠ c) = more :=
        List.takeWhile_append_dropWhile
      have outside : c ∉ more.takeWhile (· ≠ c) := by
        intro member
        simpa using List.all_eq_true.mp List.all_takeWhile c member
      cases behind : more.dropWhile (· ≠ c) with
      | nil =>
        rw [behind, List.append_nil] at whole
        rw [whole] at closed
        exact absurd closed (Nat.lt_irrefl _)
      | cons d back =>
        have first := List.head?_dropWhile_not (· ≠ c) more
        rw [behind] at first whole
        obtain rfl : d = c := by simpa using first
        exact ⟨_, back, congrArg (d :: ·) whole.symm, outside, rfl⟩
  · rintro ⟨body, back, rfl, outside, rfl⟩
    have inside : ∀ c ∈ body, decide (c ≠ delimiter) = true := by
      intro c member
      exact decide_eq_true fun same => outside (same ▸ member)
    have taken : (body ++ delimiter :: back).takeWhile (· ≠ delimiter) = body := by
      rw [List.takeWhile_append_of_pos inside, List.takeWhile_cons_of_neg (by simp),
        List.append_nil]
    simp only [quotedLength?, taken]
    exact if_pos ⟨trivial, by simp⟩

theorem quotedLength?_length {delimiter : Char}
    (found : quotedLength? delimiter rest = some length) : 0 < length ∧ length ≤ rest.length := by
  obtain ⟨body, back, rfl, -, rfl⟩ := quotedLength?_eq_some.mp found
  simp only [List.length_cons, List.length_append]
  omega

theorem qualifiedLength?_length (found : qualifiedLength? rest = some length) :
    0 < length ∧ length ≤ rest.length := by
  have whole := length_takeWhile_add_dropWhile isWordChar rest
  unfold qualifiedLength? at found
  split at found
  · rename_i more colon
    have name : (more.takeWhile isQualifiedChar).length ≤ more.length :=
      (List.takeWhile_prefix _).length_le
    simp only [Option.ite_none_left_eq_some, Option.some.injEq] at found
    obtain ⟨-, rfl⟩ := found
    rw [colon, List.length_cons] at whole
    omega
  · contradiction

theorem digitLength?_length (found : digitLength? rest = some length) :
    0 < length ∧ length ≤ rest.length := by
  simp only [digitLength?, Option.ite_none_left_eq_some, Option.some.injEq,
    List.isEmpty_iff] at found
  obtain ⟨nonempty, rfl⟩ := found
  exact ⟨List.length_pos_iff.mpr nonempty, (List.takeWhile_prefix _).length_le⟩

theorem length?_bounds {rule : Rule} (found : rule.length? rest = some length) :
    0 < length ∧ length ≤ rest.length := by
  cases rule with
  | operator => exact connector?_length found
  | bracket =>
    simp only [length?, Option.ite_none_right_eq_some, Option.some.injEq] at found
    obtain ⟨present, rfl⟩ := found
    cases rest with
    | nil => simp at present
    | cons c more => simp
  | quoted quote => exact quotedLength?_length found
  | qualifiedName => exact qualifiedLength?_length found
  | number => exact digitLength?_length found

end Rule

theorem foldl_longer?_mem (matches_ : List RuleMatch) {best : Option RuleMatch} {found : RuleMatch}
    (chosen : matches_.foldl RuleMatch.longer? best = some found) :
    found ∈ matches_ ∨ best = some found := by
  induction matches_ generalizing best with
  | nil => exact .inr chosen
  | cons candidate more ih =>
    rcases ih chosen with later | now
    · exact .inl (List.mem_cons_of_mem _ later)
    · unfold RuleMatch.longer? at now
      split at now
      · split at now
        · exact .inl (by simp_all)
        · exact .inr now
      · exact .inl (by simp_all)

theorem longestMatch?_sound {found : RuleMatch} (chosen : longestMatch? rest = some found) :
    found.rule.length? rest = some found.length := by
  rcases foldl_longer?_mem _ chosen with member | none
  · obtain ⟨rule, -, held⟩ := List.mem_filterMap.mp member
    obtain ⟨length, reached, rfl⟩ := Option.map_eq_some_iff.mp held
    exact reached
  · contradiction

/-- The matcher in one equation: the longest match, unless that is a run of digits behind
which more was read, and else the digits. -/
theorem matchRule?_eq (rest : Text) :
    matchRule? rest =
      match longestMatch? rest with
      | some found =>
        if found.rule = .number ∧ readsPastDigits rest then
          (Rule.digitLength? rest).map (⟨.number, ·⟩)
        else some found
      | none => (Rule.digitLength? rest).map (⟨.number, ·⟩) := by
  cases rest with
  | nil => rfl
  | cons c more =>
    simp only [matchRule?, MatchOutcome.of, List.isEmpty_cons]
    cases longestMatch? (c :: more) with
    | none => rfl
    | some found =>
      by_cases further : found.rule = .number ∧ readsPastDigits (c :: more)
      · simp [further]
      · simp [further]

theorem matchRule?_sound {found : RuleMatch} (matched : matchRule? rest = some found) :
    found.rule.length? rest = some found.length := by
  have retried (again : (Rule.digitLength? rest).map (⟨.number, ·⟩) = some found) :
      found.rule.length? rest = some found.length := by
    obtain ⟨digits, held, rfl⟩ := Option.map_eq_some_iff.mp again
    exact held
  rw [matchRule?_eq] at matched
  split at matched
  · rename_i chosen
    split at matched
    · exact retried matched
    · cases matched
      exact longestMatch?_sound chosen
  · exact retried matched

theorem hyphenatedWord_begins (rest : Text) : hyphenatedWord rest <+: rest := by
  have whole : rest.takeWhile isWordChar ++ rest.dropWhile isWordChar = rest :=
    List.takeWhile_append_dropWhile
  simp only [hyphenatedWord]
  split
  · rename_i more hyphen
    split
    · exact List.nil_prefix
    · rw [hyphen] at whole
      conv => rhs; rw [← whole]
      exact (List.prefix_append_right_inj _).mpr
        ((List.prefix_cons_inj _).mpr (List.takeWhile_prefix _))
  · exact List.takeWhile_prefix _

theorem keywordLength?_bounds (found : keywordLength? line = some length) :
    0 < length ∧ length ≤ line.length := by
  simp only [keywordLength?, Option.ite_none_right_eq_some, Option.some.injEq] at found
  obtain ⟨listed, rfl⟩ := found
  have nonempty : hyphenatedWord (line.dropWhile isWhitespace) ≠ [] := by
    intro empty
    rw [empty] at listed
    exact absurd listed (by decide)
  have word := (hyphenatedWord_begins (line.dropWhile isWhitespace)).length_le
  have whole := length_takeWhile_add_dropWhile isWhitespace line
  have := List.length_pos_iff.mpr nonempty
  omega

/-- The first token of a nonempty text has a character, and it ends with the text at
the latest. -/
theorem classifyStart_bounds (atLineStart : Bool) (c : Char) (more : Text) :
    0 < (classifyStart atLineStart (c :: more)).2 ∧
      (classifyStart atLineStart (c :: more)).2 ≤ (c :: more).length := by
  unfold classifyStart
  split
  · rename_i length keyword
    split at keyword
    · exact keywordLength?_bounds keyword
    · contradiction
  · split
    · rename_i found matched
      exact Rule.length?_bounds (matchRule?_sound matched)
    · simp

end DiagramEditor.Syntax

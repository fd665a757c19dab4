import DiagramEditor.Format.Indent
import DiagramEditor.Proofs.Syntax.Keyword

/-! Block words as keywords. The formatter asks for the first word of a trimmed line, and so
does the scanner of the line itself; only the scanner takes a hyphen and what follows it to the
word. So both see the same block words, but for those in front of a hyphen: there a block is
opened or closed, and no keyword is shown. -/
namespace DiagramEditor

open Syntax (isWordChar keywords tokenizeLine)

namespace LineKind

variable {word line : Text}

/-- The kind of a line that begins with a word. -/
def ofWord (word : Text) : LineKind :=
  if word = "end".toList then closer
  else if word = "subgraph".toList ∨ word = "group".toList then opener
  else other

theorem ofWord_eq_closer_iff : ofWord word = closer ↔ word = "end".toList := by
  unfold ofWord
  split
  · simpa
  · split <;> simpa

theorem ofWord_eq_opener_iff :
    ofWord word = opener ↔ word = "subgraph".toList ∨ word = "group".toList := by
  unfold ofWord
  split
  · rename_i closes
    subst closes
    decide
  · split <;> simp_all

theorem startsWithWord_iff (inside : word.all isWordChar) :
    startsWithWord word line ↔ line.takeWhile isWordChar = word := by
  simp only [startsWithWord, Bool.and_eq_true, Bool.not_eq_true']
  constructor
  · rintro ⟨begins, boundary⟩
    obtain ⟨rest, rfl⟩ := List.isPrefixOf_iff_prefix.mp begins
    rw [List.drop_left] at boundary
    rw [List.takeWhile_append_of_pos (List.all_eq_true.mp inside)]
    cases rest with
    | nil => exact List.append_nil word
    | cons c more =>
      have stops : ¬isWordChar c := by simpa using boundary
      rw [List.takeWhile_cons_of_neg stops, List.append_nil]
  · rintro rfl
    refine ⟨List.isPrefixOf_iff_prefix.mpr (List.takeWhile_prefix _), ?_⟩
    have stops := List.head?_dropWhile_not isWordChar line
    rw [Syntax.drop_length_takeWhile]
    cases rest : line.dropWhile isWordChar with
    | nil => rfl
    | cons c more => simpa [rest] using stops

theorem classify_eq_ofWord (line : Text) : classify line = ofWord (line.takeWhile isWordChar) := by
  have closes : startsWithWord "end".toList line ↔ line.takeWhile isWordChar = "end".toList :=
    startsWithWord_iff (by decide)
  have opens : startsWithWord "subgraph".toList line ↔
      line.takeWhile isWordChar = "subgraph".toList := startsWithWord_iff (by decide)
  have groups : startsWithWord "group".toList line ↔
      line.takeWhile isWordChar = "group".toList := startsWithWord_iff (by decide)
  simp only [classify, ofWord, Bool.or_eq_true, closes, opens, groups]

/-- A keyword with a hyphen has no block word in front of it. -/
theorem ofWord_of_mem_keywords (listed : keywords.contains (String.ofList word)) :
    ofWord (word.takeWhile isWordChar) = ofWord word ∧
      ('-' ∈ word → ofWord (word.takeWhile isWordChar) = other) := by
  have all : ∀ keyword ∈ keywords,
      ofWord (keyword.toList.takeWhile isWordChar) = ofWord keyword.toList ∧
        ('-' ∈ keyword.toList → ofWord (keyword.toList.takeWhile isWordChar) = other) := by decide
  simpa using all _ (List.contains_iff_mem.mp listed)

theorem mem_keywords_of_ofWord (block : ofWord word ≠ other) :
    word ≠ [] ∧ keywords.contains (String.ofList word) := by
  cases kind : ofWord word with
  | closer =>
    rw [ofWord_eq_closer_iff.mp kind]
    decide
  | opener =>
    rcases ofWord_eq_opener_iff.mp kind with rfl | rfl <;> decide
  | other => exact absurd kind block

end LineKind

/-- A keyword at the start of a line makes the line the kind that the keyword stands for. And
a line that opens or closes a block begins with a block word, which is a keyword unless a
hyphen follows it at once; in that case no token of the line is one. -/
theorem classify_agrees_with_tokens (line : Text) :
    (∀ token, (tokenizeLine line).head? = some token → token.category = .keyword →
      LineKind.classify line.trim = LineKind.ofWord token.text.trim) ∧
    (LineKind.classify line.trim ≠ .other →
      ∃ word, word <+: line.trim ∧ LineKind.classify line.trim = LineKind.ofWord word ∧
        if (line.trim.drop word.length).head? = some '-' then
          ∀ token ∈ tokenizeLine line, token.category ≠ .keyword
        else
          ∃ token, (tokenizeLine line).head? = some token ∧ token.category = .keyword ∧
            token.text.trim = word) := by
  rw [LineKind.classify_eq_ofWord]
  constructor
  · intro token first keyword
    obtain ⟨same, listed⟩ :=
      Syntax.head?_tokenizeLine_eq_keyword_iff.mp ⟨token, first, keyword, rfl⟩
    rw [← Syntax.takeWhile_hyphenatedWord, same]
    exact (LineKind.ofWord_of_mem_keywords listed).1
  · intro block
    obtain ⟨present, listed⟩ := LineKind.mem_keywords_of_ofWord block
    refine ⟨line.trim.takeWhile isWordChar, List.takeWhile_prefix _, rfl, ?_⟩
    rw [Syntax.drop_length_takeWhile]
    split
    · rename_i hyphen
      have longer := Syntax.hyphenatedWord_of_hyphen present hyphen
      intro token
      refine Syntax.category_of_mem_tokenizeLine ?_
      intro listed
      apply block
      rw [← Syntax.takeWhile_hyphenatedWord]
      exact (LineKind.ofWord_of_mem_keywords listed).2 longer
    · rename_i noHyphen
      exact Syntax.head?_tokenizeLine_eq_keyword_iff.mpr
        ⟨Syntax.hyphenatedWord_of_not_hyphen noHyphen, listed⟩

/-- A letter outside ASCII ends a block word; a hyphen hides one. -/
theorem classify_agrees_with_tokens_of_hyphen :
    let closing : Text := "\u00a0end\u00e9 ".toList
    let opening : Text := "\tsubgraph-a".toList
    LineKind.classify closing.trim = .closer ∧
      (∃ token, (tokenizeLine closing).head? = some token ∧ token.category = .keyword ∧
        token.text.trim = "end".toList) ∧
      LineKind.classify opening.trim = .opener ∧
      ∀ token ∈ tokenizeLine opening, token.category ≠ .keyword := by
  intro closing opening
  have closes : LineKind.classify closing.trim = .closer := by decide
  have opens : LineKind.classify opening.trim = .opener := by decide
  obtain ⟨-, seen⟩ := classify_agrees_with_tokens closing
  obtain ⟨-, hidden⟩ := classify_agrees_with_tokens opening
  refine ⟨closes, ?_, opens, ?_⟩
  · obtain ⟨word, -, kind, shown⟩ := seen (by rw [closes]; nofun)
    obtain rfl := LineKind.ofWord_eq_closer_iff.mp (kind.symm.trans closes)
    rwa [if_neg (by decide)] at shown
  · obtain ⟨word, begins, kind, shown⟩ := hidden (by rw [opens]; nofun)
    rcases LineKind.ofWord_eq_opener_iff.mp (kind.symm.trans opens) with rfl | rfl
    · rwa [if_pos (by decide)] at shown
    · exact absurd begins (by decide)

end DiagramEditor

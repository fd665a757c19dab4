import DiagramEditor.Proofs.Syntax.Locality

/-! Tokens and the lines on which they stand. A token of a source is a newline or stands on
one line of it, and the tokens of a line are those of the line by itself, moved to where the
line begins. So no token but a newline reaches across the end of its line. -/
namespace DiagramEditor.Syntax

variable {source front line back : Text} {token : Token}

/-- A line between the text in front of it and the text behind it. It begins with the source or
behind a newline, and it ends with the source or before a newline. -/
structure IsLine (front line back : Text) : Prop where
  start : front = [] ∨ front.getLast? = some '\n'
  inside : '\n' ∉ line
  stop : back = [] ∨ back.head? = some '\n'

namespace IsLine

theorem seam_start (whole : IsLine front line back) : Seam front (line ++ back) := by
  rcases whole.start with rfl | ends
  · exact .start
  · obtain ⟨above, rfl⟩ := List.getLast?_eq_some_iff.mp ends
    exact .behind

theorem seam_stop (whole : IsLine front line back) : Seam line back := by
  rcases whole.stop with rfl | begins
  · exact .stop
  · obtain ⟨below, rfl⟩ := List.head?_eq_some_iff.mp begins
    exact .before

theorem below (whole : IsLine front line back) (above : Text) :
    IsLine (above ++ '\n' :: front) line back where
  start := by
    refine .inr ?_
    rcases whole.start with rfl | ends
    · rw [List.getLast?_concat]
    · obtain ⟨more, rfl⟩ := List.getLast?_eq_some_iff.mp ends
      rw [← List.cons_append, ← List.append_assoc, List.getLast?_concat]
  inside := whole.inside
  stop := whole.stop

end IsLine

theorem tokenize_of_not_mem (single : '\n' ∉ line) : tokenize line = tokenizeLine line := by
  rw [tokenize, Text.split_of_not_mem single, tokenizeLines]
  exact List.map_id (tokenizeLine line)

/-- The tokens around a line and on it. -/
theorem IsLine.tokenize_eq (whole : IsLine front line back) :
    tokenize (front ++ (line ++ back)) =
      tokenize front ++ ((tokenizeLine line).map (·.shift front.size) ++
        (tokenize back).map (·.shift (front.size + line.size))) := by
  rw [tokenize_append whole.seam_start, tokenize_append whole.seam_stop,
    tokenize_of_not_mem whole.inside]
  simp only [List.map_append, List.map_map, Function.comp_def, Token.shift_shift, Nat.add_comm]

theorem exists_line_of_mem_tokenize {source : Text} {token : Token}
    (member : token ∈ tokenize source) :
    (∃ place, token = newlineToken place) ∨
      ∃ front line back, source = front ++ (line ++ back) ∧ IsLine front line back ∧
        ∃ inner ∈ tokenizeLine line, token = inner.shift front.size := by
  by_cases newline : '\n' ∈ source
  · obtain ⟨first, rest, rfl, single⟩ := List.eq_append_cons_of_mem newline
    rw [tokenize_newline, tokenize_of_not_mem single] at member
    rcases List.mem_append.mp member with here | later
    · exact .inr ⟨[], first, '\n' :: rest, rfl, ⟨.inl rfl, single, .inr rfl⟩, token, here, rfl⟩
    · rcases List.mem_cons.mp later with rfl | later
      · exact .inl ⟨_, rfl⟩
      · -- The token stands below the first line: the lines there are fewer.
        obtain ⟨unmoved, listed, rfl⟩ := List.mem_map.mp later
        rcases exists_line_of_mem_tokenize listed with
          ⟨place, rfl⟩ | ⟨front, line, back, rfl, whole, inner, inside, rfl⟩
        · exact .inl ⟨_, newlineToken_shift _ _⟩
        · refine .inr ⟨first ++ '\n' :: front, line, back, by simp, whole.below first, inner,
            inside, ?_⟩
          have newline : Char.utf8Size '\n' = 1 := rfl
          rw [Token.shift_shift, Text.size_append, Text.size_cons, newline]
          congr 1
          omega
  · rw [tokenize_of_not_mem newline] at member
    exact .inr ⟨[], source, [], by simp, ⟨.inl rfl, newline, .inl rfl⟩, token, member, rfl⟩
termination_by source.length

theorem newline_not_mem_of_ne_plain (member : token ∈ tokenize source)
    (styled : token.category ≠ .plain) : '\n' ∉ token.text := by
  rcases exists_line_of_mem_tokenize member with
    ⟨place, rfl⟩ | ⟨front, line, back, -, whole, inner, inside, rfl⟩
  · exact absurd rfl styled
  · intro newline
    apply whole.inside
    rw [← (tokenizeLine_cuts line).flatMap_text]
    exact List.mem_flatMap.mpr ⟨inner, inside, newline⟩

end DiagramEditor.Syntax

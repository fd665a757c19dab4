import DiagramEditor.Text.Whitespace

/-! Trimming takes a blank text off either end and nothing else. A text is its trimmed
form between two blanks, and any two blanks put around it leave that form as it is. -/
namespace DiagramEditor.Text

/-- There is nothing but white space. -/
def IsBlank (text : Text) : Prop := ∀ c ∈ text, isWhitespace c

variable {text blank : Text}

theorem IsBlank.not_mem {c : Char} (white : IsBlank blank) (dark : isWhitespace c = false) :
    c ∉ blank := by
  intro member
  exact Bool.false_ne_true (dark.symm.trans (white c member))

theorem isBlank_append {front back : Text} :
    IsBlank (front ++ back) ↔ IsBlank front ∧ IsBlank back :=
  List.forall_mem_append

theorem isBlank_cons {c : Char} : IsBlank (c :: text) ↔ isWhitespace c ∧ IsBlank text :=
  List.forall_mem_cons

theorem isBlank_replicate (count : Nat) : IsBlank (List.replicate count ' ') := by
  intro c member
  rw [List.eq_of_mem_replicate member]
  decide

theorem isBlank_takeWhile (text : Text) : IsBlank (text.takeWhile isWhitespace) :=
  List.all_eq_true.mp List.all_takeWhile

theorem trimStart_blank_append (white : IsBlank blank) (text : Text) :
    trimStart (blank ++ text) = text.trimStart :=
  List.dropWhile_append_of_pos white

theorem trimStart_of_isBlank (white : IsBlank blank) : blank.trimStart = [] := by
  rw [← List.append_nil blank, trimStart_blank_append white]
  rfl

theorem trimEnd_append_blank (white : IsBlank blank) (text : Text) :
    trimEnd (text ++ blank) = text.trimEnd := by
  have turned : ∀ c ∈ blank.reverse, isWhitespace c := fun c member =>
    white c (List.mem_reverse.mp member)
  rw [trimEnd, trimEnd, List.reverse_append, List.dropWhile_append_of_pos turned]

theorem trim_blank_append (white : IsBlank blank) (text : Text) :
    trim (blank ++ text) = text.trim := by
  rw [trim, trimStart_blank_append white, trim]

theorem trim_append_blank (white : IsBlank blank) (text : Text) :
    trim (text ++ blank) = text.trim := by
  have cases : trimStart (text ++ blank) =
      if (trimStart text).isEmpty then trimStart blank else trimStart text ++ blank :=
    List.dropWhile_append
  rw [trim, cases, trim]
  split
  · rename_i empty
    rw [trimStart_of_isBlank white, List.isEmpty_iff.mp empty]
  · exact trimEnd_append_blank white _

theorem exists_eq_trimEnd_append (text : Text) :
    ∃ blank, IsBlank blank ∧ text = text.trimEnd ++ blank := by
  refine ⟨(text.reverse.takeWhile isWhitespace).reverse, ?_, ?_⟩
  · intro c member
    exact isBlank_takeWhile _ c (List.mem_reverse.mp member)
  · rw [trimEnd, ← List.reverse_append, List.takeWhile_append_dropWhile, List.reverse_reverse]

theorem exists_eq_append_trim (text : Text) :
    ∃ indent tail, IsBlank indent ∧ IsBlank tail ∧ text = indent ++ (text.trim ++ tail) := by
  obtain ⟨tail, white, rest⟩ := exists_eq_trimEnd_append text.trimStart
  refine ⟨text.takeWhile isWhitespace, tail, isBlank_takeWhile text, white, ?_⟩
  rw [trim, ← rest, trimStart, List.takeWhile_append_dropWhile]

@[simp] theorem trim_trim (text : Text) : text.trim.trim = text.trim := by
  obtain ⟨indent, tail, before, behind, whole⟩ := exists_eq_append_trim text
  have same := congrArg trim whole
  rw [trim_blank_append before, trim_append_blank behind] at same
  exact same.symm

theorem not_isWhitespace_of_getLast?_trim {c : Char} (ends : text.trim.getLast? = some c) :
    isWhitespace c = false := by
  have dark := List.head?_dropWhile_not isWhitespace text.trimStart.reverse
  rw [trim, trimEnd, List.getLast?_reverse] at ends
  rwa [ends] at dark

theorem mem_of_mem_trim {c : Char} (member : c ∈ text.trim) : c ∈ text := by
  obtain ⟨indent, tail, -, -, whole⟩ := exists_eq_append_trim text
  rw [whole]
  exact List.mem_append_right _ (List.mem_append_left _ member)

end DiagramEditor.Text

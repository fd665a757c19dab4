import DiagramEditor.Proofs.Syntax.Match

/-! The words of the rules. A rule matches at the start of a text if one of its words stands
there, and it matches the longest of them: runs of characters go on as far as they can,
a string ends at the first closing delimiter, and no connector begins another. -/
namespace DiagramEditor.Syntax.Rule

variable {rest word : Text} {length : Nat}

/-- The words of a rule. A text that begins with one may begin with a longer one too. -/
inductive Accepts : Rule → Text → Prop where
  | operator {word : Text} : word ∈ connectors → Accepts .operator word
  | bracket {c : Char} : c ∈ brackets → Accepts .bracket [c]
  | quoted {quote : Quote} {body : Text} : quote.delimiter ∉ body →
      Accepts (.quoted quote) (quote.delimiter :: (body ++ [quote.delimiter]))
  | qualifiedName {scope name : Text} : scope ≠ [] → (∀ c ∈ scope, isWordChar c) →
      name ≠ [] → (∀ c ∈ name, isQualifiedChar c) → Accepts .qualifiedName (scope ++ ':' :: name)
  | number {digits : Text} : digits ≠ [] → (∀ c ∈ digits, c.isDigit) → Accepts .number digits

theorem length_le_takeWhile {p : Char → Bool} {front : Text} (inside : ∀ c ∈ front, p c)
    (back : Text) : front.length ≤ ((front ++ back).takeWhile p).length := by
  rw [List.takeWhile_append_of_pos inside, List.length_append]
  exact Nat.le_add_right _ _

theorem takeWhile_append_ne_nil {p : Char → Bool} {front : Text} (present : front ≠ [])
    (inside : ∀ c ∈ front, p c) (back : Text) : (front ++ back).takeWhile p ≠ [] := by
  rw [List.takeWhile_append_of_pos inside]
  exact List.append_ne_nil_of_left_ne_nil present _

/-- No connector is the beginning of another, so a text begins with one at most. -/
theorem connector?_append (listed : word ∈ connectors) (back : Text) :
    connector? (word ++ back) = some word := by
  simp only [connectors, List.mem_cons, List.not_mem_nil, or_false] at listed
  rcases listed with rfl | rfl | rfl | rfl | rfl <;> rfl

theorem takeWhile_isWordChar_append {scope : Text} (inside : ∀ c ∈ scope, isWordChar c)
    (more : Text) : (scope ++ ':' :: more).takeWhile isWordChar = scope := by
  rw [List.takeWhile_append_of_pos inside, List.takeWhile_cons_of_neg (by decide), List.append_nil]

theorem dropWhile_isWordChar_append {scope : Text} (inside : ∀ c ∈ scope, isWordChar c)
    (more : Text) : (scope ++ ':' :: more).dropWhile isWordChar = ':' :: more := by
  rw [List.dropWhile_append_of_pos inside, List.dropWhile_cons_of_neg (by decide)]

theorem qualifiedLength?_eq_some :
    qualifiedLength? rest = some length ↔
      ∃ scope more, rest = scope ++ ':' :: more ∧ scope ≠ [] ∧ (∀ c ∈ scope, isWordChar c) ∧
        more.takeWhile isQualifiedChar ≠ [] ∧
        length = scope.length + 1 + (more.takeWhile isQualifiedChar).length := by
  constructor
  · intro found
    have whole : rest.takeWhile isWordChar ++ rest.dropWhile isWordChar = rest :=
      List.takeWhile_append_dropWhile
    unfold qualifiedLength? at found
    split at found
    · rename_i more colon
      simp only [Option.ite_none_left_eq_some, Option.some.injEq, Bool.or_eq_true,
        List.isEmpty_iff, not_or] at found
      obtain ⟨⟨scope, name⟩, reached⟩ := found
      rw [colon] at whole
      exact ⟨_, more, whole.symm, scope, List.all_eq_true.mp List.all_takeWhile, name,
        reached.symm⟩
    · contradiction
  · rintro ⟨scope, more, rfl, present, inside, name, rfl⟩
    simp only [qualifiedLength?, takeWhile_isWordChar_append inside,
      dropWhile_isWordChar_append inside]
    simp [present, name]

theorem accepts_take (rule : Rule) (found : rule.length? rest = some length) :
    rule.Accepts (rest.take length) := by
  cases rule with
  | operator =>
    obtain ⟨word, chosen, rfl⟩ := Option.map_eq_some_iff.mp found
    obtain ⟨listed, begins⟩ := connector?_begins chosen
    rw [← List.prefix_iff_eq_take.mp begins]
    exact .operator listed
  | bracket =>
    simp only [length?, Option.ite_none_right_eq_some, Option.some.injEq] at found
    obtain ⟨present, rfl⟩ := found
    cases rest with
    | nil => simp at present
    | cons c more => exact .bracket (List.contains_iff_mem.mp present)
  | quoted quote =>
    obtain ⟨body, back, rfl, outside, rfl⟩ := quotedLength?_eq_some.mp found
    have whole : quote.delimiter :: (body ++ quote.delimiter :: back) =
        (quote.delimiter :: (body ++ [quote.delimiter])) ++ back := by simp
    rw [whole, List.take_left' (by simp)]
    exact .quoted outside
  | qualifiedName =>
    obtain ⟨scope, more, rfl, present, inside, name, rfl⟩ := qualifiedLength?_eq_some.mp found
    have taken : (scope ++ ':' :: more).take
        (scope.length + 1 + (more.takeWhile isQualifiedChar).length) =
          scope ++ ':' :: more.takeWhile isQualifiedChar := by
      rw [Nat.add_assoc, List.take_length_add_append, Nat.add_comm 1, List.take_succ_cons,
        ← List.prefix_iff_eq_take.mp (List.takeWhile_prefix _)]
    rw [taken]
    exact .qualifiedName present inside name (List.all_eq_true.mp List.all_takeWhile)
  | number =>
    simp only [length?, digitLength?, Option.ite_none_left_eq_some, Option.some.injEq,
      List.isEmpty_iff] at found
    obtain ⟨present, rfl⟩ := found
    rw [← List.prefix_iff_eq_take.mp (List.takeWhile_prefix _)]
    exact .number present (List.all_eq_true.mp List.all_takeWhile)

/-- A rule matches whatever begins with one of its words, and at least that word. -/
theorem length?_of_accepts {rule : Rule} (accepted : rule.Accepts word) (back : Text) :
    ∃ length, rule.length? (word ++ back) = some length ∧ word.length ≤ length := by
  cases accepted with
  | operator listed =>
    refine ⟨word.length, ?_, Nat.le_refl _⟩
    rw [length?, connector?_append listed, Option.map_some]
  | bracket listed => exact ⟨1, if_pos (List.contains_iff_mem.mpr listed), Nat.le_refl _⟩
  | @quoted quote body outside =>
    have whole : quote.delimiter :: (body ++ [quote.delimiter]) ++ back =
        quote.delimiter :: (body ++ quote.delimiter :: back) := by simp
    exact ⟨_, quotedLength?_eq_some.mpr ⟨body, back, whole, outside, rfl⟩, by simp⟩
  | @qualifiedName scope name present inside named qualified =>
    have further := length_le_takeWhile qualified back
    have goesOn := takeWhile_append_ne_nil named qualified back
    have whole : scope ++ ':' :: name ++ back = scope ++ ':' :: (name ++ back) := by simp
    refine ⟨_, qualifiedLength?_eq_some.mpr ⟨scope, name ++ back, whole, present, inside,
      goesOn, rfl⟩, ?_⟩
    simp only [List.length_append, List.length_cons]
    omega
  | number present digits =>
    have further := length_le_takeWhile digits back
    have goesOn := takeWhile_append_ne_nil present digits back
    exact ⟨_, by simp [length?, digitLength?, goesOn], further⟩

end DiagramEditor.Syntax.Rule

import DiagramEditor.Toml.Reader
import DiagramEditor.Toml.Writer
import DiagramEditor.Proofs.Toml.Integer
import DiagramEditor.Proofs.Toml.Layout
import DiagramEditor.Proofs.Toml.Quoted

/-! What is written behind the equals sign of an assignment is read as the value that it was
written for, whatever its strings hold. The fuel of the reader is enough where it
exceeds the number of characters. -/
namespace DiagramEditor.Toml

variable {fuel nesting : Nat} {behind : Text}

/-- The value that a field is written for. -/
def Field.toValue : Field → Value
  | integer value => .integer value
  | string text => .string text
  | strings items => .array (items.map .string)

/-- An integer fits as far as it has 128 bits. Any string does. -/
def Field.Fits : Field → Prop
  | integer value => value ≤ 0xFFFFFFFFFFFFFFFFFFFFFFFFFFFFFFFF
  | string _ => True
  | strings _ => True

/-- The value of a string that is given by its characters. -/
def stringValue (text : Text) : Value := .string (String.ofList text)

/-- A string may stand before anything but one more quote. -/
theorem value?_writeString (text : Text) (noDouble : behind.head? ≠ some '"')
    (noSingle : behind.head? ≠ some '\'') :
    value? (fuel + 1) nesting (writeString text ++ behind) = some (stringValue text, behind) := by
  obtain ⟨quote, more, start, isQuote⟩ := Quoted.exists_writeString_eq_cons text
  have read := Quoted.string?_writeString text noDouble noSingle
  rw [start, List.cons_append] at read ⊢
  obtain rfl | rfl := isQuote
  all_goals
    simp only [value?, read]
    rfl

theorem writeInteger_eq_cons (n : Nat) : ∃ c more, writeInteger n = c :: more ∧ c.isDigit := by
  obtain ⟨c, more, start⟩ : ∃ c more, writeInteger n = c :: more :=
    List.exists_cons_of_ne_nil Nat.toDigits_ne_nil
  have first : c ∈ writeInteger n := start ▸ List.mem_cons_self
  exact ⟨c, more, start, Text.isDigit_of_mem_toDigits n c first⟩

theorem value?_writeInteger {n : Nat} (fits : n ≤ 0xFFFFFFFFFFFFFFFFFFFFFFFFFFFFFFFF)
    (rest : Text) :
    value? (fuel + 1) nesting (writeInteger n ++ '\n' :: rest) =
      some (.integer n, '\n' :: rest) := by
  have read := Scalar.read?_writeInteger fits rest
  obtain ⟨c, more, start, digit⟩ := writeInteger_eq_cons n
  have other (mark : Char) (noDigit : mark.isDigit = false) : c ≠ mark := by
    rintro rfl
    cases noDigit.symm.trans digit
  rw [start, List.cons_append] at read ⊢
  unfold value?
  split
  · rename_i same
    cases same
  · rename_i same
    exact absurd (List.cons.inj same).1 (other '[' rfl)
  · rename_i same
    exact absurd (List.cons.inj same).1 (other '\x7b' rfl)
  · rename_i same
    obtain ⟨rfl, -⟩ := List.cons.inj same
    rw [if_neg (by simp [other]), read]

/-! ### Rows of strings -/

theorem skipLines_writeString (text behind : Text) :
    skipLines (writeString text ++ behind) = writeString text ++ behind := by
  obtain ⟨quote, more, start, isQuote⟩ := Quoted.exists_writeString_eq_cons text
  rw [start, List.cons_append]
  obtain rfl | rfl := isQuote
  all_goals exact skipLines_of_isVisible (by decide) _

theorem writeString_append_ne_bracket (text behind last : Text) :
    writeString text ++ behind ≠ ']' :: last := by
  obtain ⟨quote, more, start, isQuote⟩ := Quoted.exists_writeString_eq_cons text
  rw [start, List.cons_append]
  obtain rfl | rfl := isQuote
  all_goals simp

theorem items?_bracket (last : Text) :
    items? (fuel + 1) nesting (']' :: last) = some ([], last) := by
  rw [items?]

theorem items?_writeString_bracket (text last : Text) :
    items? (fuel + 2) nesting (writeString text ++ ']' :: last) =
      some ([stringValue text], last) := by
  rw [items?, value?_writeString text (by simp) (by simp)]
  · have stop : skipLines (']' :: last) = ']' :: last := skipLines_of_isVisible (by decide) last
    simp only [Option.bind_eq_bind, Option.bind_some, stop]
  · exact writeString_append_ne_bracket text _

theorem items?_writeString_comma (text more : Text) :
    items? (fuel + 2) nesting (writeString text ++ ',' :: more) =
      (items? (fuel + 1) nesting (skipLines more)).map fun (items, last) =>
        (stringValue text :: items, last) := by
  rw [items?, value?_writeString text (by simp) (by simp)]
  · have stop : skipLines (',' :: more) = ',' :: more := skipLines_of_isVisible (by decide) more
    simp only [Option.bind_eq_bind, Option.bind_some, stop]
    cases items? (fuel + 1) nesting (skipLines more) <;> rfl
  · exact writeString_append_ne_bracket text _

/-- An item on a line of its own. -/
def itemLine (item : Text) : Text := "    ".toList ++ writeString item ++ ",\n".toList

theorem skipLines_itemLine (item rest : Text) :
    skipLines (itemLine item ++ rest) = writeString item ++ ',' :: '\n' :: rest := by
  have shape : itemLine item ++ rest =
      ' ' :: ' ' :: ' ' :: ' ' :: (writeString item ++ ',' :: '\n' :: rest) := by
    simp [itemLine]
  rw [shape]
  repeat rw [skipLines_blank (by decide)]
  exact skipLines_writeString item _

/-- The induction is on the items. Each has more characters than it takes fuel. -/
theorem items?_itemLines (items : List Text)
    (enough : (items.flatMap itemLine ++ ']' :: behind).length < fuel) :
    items? fuel nesting (skipLines (items.flatMap itemLine ++ ']' :: behind)) =
      some (items.map stringValue, behind) := by
  induction items generalizing fuel with
  | nil =>
    obtain ⟨fuel, rfl⟩ : ∃ less, fuel = less + 1 := Nat.exists_eq_succ_of_ne_zero (by omega)
    rw [List.flatMap_nil, List.nil_append, skipLines_of_isVisible (by decide), items?_bracket]
    rfl
  | cons item items ih =>
    rw [List.flatMap_cons, List.append_assoc] at enough ⊢
    have more : (items.flatMap itemLine ++ ']' :: behind).length + 4 < fuel := by
      simp only [itemLine, List.length_append] at enough ⊢
      have : "    ".toList.length = 4 := rfl
      omega
    obtain ⟨fuel, rfl⟩ : ∃ less, fuel = less + 2 := ⟨fuel - 2, by omega⟩
    rw [skipLines_itemLine, items?_writeString_comma, skipLines_newline, ih (by omega)]
    rfl

theorem value?_bracket (rest : Text) :
    value? (fuel + 1) (nesting + 1) ('[' :: rest) =
      (items? fuel nesting (skipLines rest)).map fun (items, last) => (.array items, last) := by
  rw [value?]
  cases items? fuel nesting (skipLines rest) <;> rfl

theorem writeStrings_lines (first second : Text) (more : List Text) :
    writeStrings (first :: second :: more) =
      '[' :: '\n' :: ((first :: second :: more).flatMap itemLine ++ [']']) := rfl

theorem value?_writeStrings (items : List Text)
    (enough : (writeStrings items ++ behind).length < fuel) :
    value? fuel (nesting + 1) (writeStrings items ++ behind) =
      some (.array (items.map stringValue), behind) := by
  obtain ⟨fuel, rfl⟩ : ∃ less, fuel = less + 1 := Nat.exists_eq_succ_of_ne_zero (by omega)
  match items with
  | [] =>
    obtain ⟨fuel, rfl⟩ : ∃ less, fuel = less + 1 :=
      ⟨fuel - 1, by simp [writeStrings] at enough; omega⟩
    have stop : skipLines (']' :: behind) = ']' :: behind :=
      skipLines_of_isVisible (by decide) behind
    change value? _ _ ('[' :: ']' :: behind) = _
    rw [value?_bracket, stop, items?_bracket]
    rfl
  | [item] =>
    have shape : writeStrings [item] ++ behind = '[' :: (writeString item ++ ']' :: behind) := by
      simp [writeStrings]
    rw [shape] at enough ⊢
    obtain ⟨fuel, rfl⟩ : ∃ less, fuel = less + 2 :=
      ⟨fuel - 2, by simp at enough; omega⟩
    rw [value?_bracket, skipLines_writeString, items?_writeString_bracket]
    rfl
  | first :: second :: more =>
    rw [writeStrings_lines, List.cons_append, List.cons_append, List.append_assoc] at enough ⊢
    rw [value?_bracket, skipLines_newline]
    rw [List.singleton_append] at enough ⊢
    rw [items?_itemLines _ (by simp only [List.length_cons] at enough; omega)]
    rfl

theorem writeStrings_eq_cons (items : List Text) : ∃ more, writeStrings items = '[' :: more := by
  match items with
  | [] => exact ⟨_, rfl⟩
  | [item] => exact ⟨_, rfl⟩
  | first :: second :: more => exact ⟨_, writeStrings_lines first second more⟩

theorem skipBlanks_writeField (field : Field) (rest : Text) :
    skipBlanks (field.write ++ rest) = field.write ++ rest := by
  obtain ⟨c, more, start, dark⟩ : ∃ c more, field.write = c :: more ∧ isBlank c = false := by
    cases field with
    | integer n =>
      obtain ⟨c, more, start, digit⟩ := writeInteger_eq_cons n
      refine ⟨c, more, start, Bool.eq_false_iff.mpr fun blank => ?_⟩
      simp only [isBlank, Bool.or_eq_true, decide_eq_true_eq] at blank
      rcases blank with rfl | rfl <;> cases digit
    | string text =>
      obtain ⟨quote, more, start, isQuote⟩ := Quoted.exists_writeString_eq_cons text.toList
      refine ⟨quote, more, start, ?_⟩
      obtain rfl | rfl := isQuote <;> rfl
    | strings items =>
      obtain ⟨more, start⟩ := writeStrings_eq_cons (items.map String.toList)
      exact ⟨'[', more, start, rfl⟩
  rw [start, List.cons_append, skipBlanks_of_not_isBlank dark]

/-- The value of a field is read up to the end of its line. -/
theorem value?_writeField {field : Field} (fits : field.Fits) (rest : Text)
    (enough : (field.write ++ '\n' :: rest).length < fuel) :
    value? fuel (nesting + 1) (field.write ++ '\n' :: rest) =
      some (field.toValue, '\n' :: rest) := by
  obtain ⟨fuel, rfl⟩ : ∃ less, fuel = less + 1 := Nat.exists_eq_succ_of_ne_zero (by omega)
  cases field with
  | integer n => exact value?_writeInteger fits rest
  | string text =>
    have value : stringValue text.toList = .string text :=
      congrArg Value.string String.ofList_toList
    rw [Field.toValue, ← value]
    exact value?_writeString text.toList (by simp) (by simp)
  | strings items =>
    have values : (items.map String.toList).map stringValue = items.map .string := by
      simp [stringValue]
    rw [Field.toValue, ← values]
    exact value?_writeStrings (items.map String.toList) enough

end DiagramEditor.Toml

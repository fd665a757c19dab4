import DiagramEditor.Proofs.Text.Run
import DiagramEditor.Proofs.Toml.Layout
import DiagramEditor.Toml.Quoted
import DiagramEditor.Toml.Writer

/-! Strings are read back as they were written, in each of their forms. What is escaped comes
back as the character that was meant, and quotes inside a multi-line string never add up to its
end: at most two of them stand in a row, and in front of the closing quotes these are kept. -/
namespace DiagramEditor.Toml.Quoted

variable {quote c : Char} {code rest behind text : Text} {run : Nat} {escapes : Bool}

/-- Behind a backslash the code is read as the character, and it joins no lines. -/
structure Encodes (code : Text) (c : Char) : Prop where
  reads : ∀ behind, escape? (code ++ behind) = some (c, behind)
  stays : ∀ behind, joinedLine? (code ++ behind) = none

section Escapes

theorem codePoint?_digits (small : c.toNat < 0x80) (behind : Text) :
    codePoint? 0 4 ('0' :: '0' :: upperHexDigit (c.toNat / 16) :: upperHexDigit (c.toNat % 16) ::
      behind) = some (c, behind) := by
  have high : hexDigitValue? (upperHexDigit (c.toNat / 16)) = some (c.toNat / 16) :=
    hexDigitValue?_upperHexDigit (by omega)
  have low : hexDigitValue? (upperHexDigit (c.toNat % 16)) = some (c.toNat % 16) :=
    hexDigitValue?_upperHexDigit (by omega)
  have zero : hexDigitValue? '0' = some 0 := rfl
  have value : c.toNat / 16 * 16 + c.toNat % 16 = c.toNat := by omega
  have valid : c.toNat.isValidChar := c.valid
  simp [codePoint?, zero, high, low, value, scalar?, valid]

theorem toNat_lt_of_isControl (control : isControl c) : c.toNat < 0x80 := by
  simp only [isControl, Bool.or_eq_true, Bool.and_eq_true, decide_eq_true_eq] at control
  omega

theorem joinedLine?_cons (noBlank : isBlank c = false) (noEnd : lineEnd? (c :: rest) = none) :
    joinedLine? (c :: rest) = none := by
  rw [joinedLine?, skipBlanks_of_not_isBlank noBlank, noEnd, Option.map_none]

/-- A character stands for itself between double quotes, or a code stands for it. -/
theorem escapeChar_cases (c : Char) :
    (escapeChar c = [c] ∧ isControl c = false ∧ c ≠ '\\') ∨
      ∃ code, escapeChar c = '\\' :: code ∧ Encodes code c := by
  unfold escapeChar
  split
  · exact .inr ⟨_, rfl, fun _ => rfl, fun _ => joinedLine?_cons rfl rfl⟩
  · exact .inr ⟨_, rfl, fun _ => rfl, fun _ => joinedLine?_cons rfl rfl⟩
  · exact .inr ⟨_, rfl, fun _ => rfl, fun _ => joinedLine?_cons rfl rfl⟩
  · exact .inr ⟨_, rfl, fun _ => rfl, fun _ => joinedLine?_cons rfl rfl⟩
  · exact .inr ⟨_, rfl, fun _ => rfl, fun _ => joinedLine?_cons rfl rfl⟩
  · rename_i noBackslash _ _ _ _
    split
    · rename_i control
      refine .inr ⟨_, rfl, fun behind => ?_, fun _ => joinedLine?_cons rfl rfl⟩
      exact codePoint?_digits (toNat_lt_of_isControl control) behind
    · rename_i plain
      exact .inl ⟨rfl, by simpa using plain, noBackslash⟩

theorem escapeOneLine_cases (c : Char) :
    (escapeOneLine c = [c] ∧ isControl c = false ∧ c ≠ '\\' ∧ c ≠ '"') ∨
      ∃ code, escapeOneLine c = '\\' :: code ∧ Encodes code c := by
  unfold escapeOneLine
  split
  · exact .inr ⟨_, rfl, fun _ => rfl, fun _ => joinedLine?_cons rfl rfl⟩
  · exact .inr ⟨_, rfl, fun _ => rfl, fun _ => joinedLine?_cons rfl rfl⟩
  · rename_i noQuote _
    rcases escapeChar_cases c with ⟨same, plain, noBackslash⟩ | coded
    · exact .inl ⟨same, plain, noBackslash, noQuote⟩
    · exact .inr coded

end Escapes

section OneLine

theorem basic?_quote (behind : Text) : basic? ('"' :: behind) = some ([], behind) := by
  rw [basic?]

theorem basic?_code (encoded : Encodes code c) (rest : Text) :
    basic? ('\\' :: (code ++ rest)) = (basic? rest).map fun (text, last) => (c :: text, last) := by
  rw [basic?]
  split
  · rename_i again
    cases again.symm.trans (encoded.reads rest)
    rfl
  · rename_i missing
    cases missing.symm.trans (encoded.reads rest)

theorem basic?_plain (plain : isControl c = false) (noBackslash : c ≠ '\\') (noQuote : c ≠ '"')
    (rest : Text) :
    basic? (c :: rest) = (basic? rest).map fun (text, last) => (c :: text, last) := by
  rw [basic?]
  · rw [plain, if_neg Bool.false_ne_true]
  · exact noQuote
  · exact noBackslash

theorem basic?_escaped (text behind : Text) :
    basic? (text.flatMap escapeOneLine ++ '"' :: behind) = some (text, behind) := by
  induction text with
  | nil => exact basic?_quote behind
  | cons c more ih =>
    rw [List.flatMap_cons, List.append_assoc]
    rcases escapeOneLine_cases c with ⟨same, plain, noBackslash, noQuote⟩ | ⟨code, coded, encoded⟩
    · rw [same, List.singleton_append, basic?_plain plain noBackslash noQuote, ih, Option.map_some]
    · rw [coded, List.cons_append, basic?_code encoded, ih, Option.map_some]

theorem literal?_append (noQuote : '\'' ∉ text) (plain : ∀ c ∈ text, isControl c = false)
    (behind : Text) : literal? (text ++ '\'' :: behind) = some (text, behind) := by
  induction text with
  | nil => rfl
  | cons c more ih =>
    obtain ⟨other, noQuote⟩ := not_or.mp (mt List.mem_cons.mpr noQuote)
    obtain ⟨first, plain⟩ := List.forall_mem_cons.mp plain
    rw [List.cons_append, literal?, if_neg (Ne.symm other), first, if_neg Bool.false_ne_true,
      ih noQuote plain, Option.map_some]

end OneLine

section Multiline

theorem length_takeWhile_quotes (count : Nat) (other : rest.head? ≠ some quote) :
    ((List.replicate count quote ++ rest).takeWhile (· = quote)).length = count := by
  have stop : rest.head?.any (· = quote) = false := by
    cases rest with
    | nil => rfl
    | cons d more => simpa using other
  have inside : ∀ d ∈ List.replicate count quote, decide (d = quote) = true := by simp
  rw [Text.takeWhile_run inside stop, List.length_replicate]

/-- Up to two quotes that no third one follows belong to the string. -/
theorem multiline?_quotes (few : run ≤ 2) (other : rest.head? ≠ some quote) :
    multiline? quote escapes (List.replicate run quote ++ rest) =
      (multiline? quote escapes rest).map fun (text, last) =>
        (List.replicate run quote ++ text, last) := by
  cases run with
  | zero => simp
  | succ more =>
    have inside : QuoteRun.of (more + 1) = .inside := if_pos (by omega)
    rw [List.replicate_succ, List.cons_append, multiline?, if_pos rfl]
    simp only [length_takeWhile_quotes more other, inside, List.replicate_succ, List.cons_append,
      List.drop_left' List.length_replicate]

/-- The closing quotes leave those in front of them to the string. -/
theorem multiline?_closing (few : run ≤ 2) (other : behind.head? ≠ some quote) :
    multiline? quote escapes (List.replicate run quote ++ (List.replicate 3 quote ++ behind)) =
      some (List.replicate run quote, behind) := by
  have row : List.replicate run quote ++ (List.replicate 3 quote ++ behind) =
      quote :: (List.replicate (run + 2) quote ++ behind) := by
    rw [← List.append_assoc, List.replicate_append_replicate, ← List.cons_append,
      ← List.replicate_succ]
  have closing : QuoteRun.of (run + 2 + 1) = .closing run := by
    rw [QuoteRun.of, if_neg (by omega), if_pos (by omega)]
    rfl
  rw [row, multiline?, if_pos rfl]
  simp only [length_takeWhile_quotes (run + 2) other, closing,
    List.drop_left' List.length_replicate]

theorem multiline?_newline (different : quote ≠ '\n') (rest : Text) :
    multiline? quote escapes ('\n' :: rest) =
      (multiline? quote escapes rest).map fun (text, last) => ('\n' :: text, last) := by
  have ended : lineEnd? ('\n' :: rest) = some rest := rfl
  have noBackslash : (escapes && decide ('\n' = '\\')) = false := by simp
  rw [multiline?, if_neg (Ne.symm different), noBackslash, if_neg Bool.false_ne_true]
  split
  · rename_i again
    cases again.symm.trans ended
    simp
  · rename_i missing
    cases missing.symm.trans ended

theorem multiline?_code (different : quote ≠ '\\') (encoded : Encodes code c) (rest : Text) :
    multiline? quote true ('\\' :: (code ++ rest)) =
      (multiline? quote true rest).map fun (text, last) => (c :: text, last) := by
  rw [multiline?, if_neg (Ne.symm different), if_pos (by decide)]
  split
  · rename_i joined
    cases joined.symm.trans (encoded.stays rest)
  · split
    · rename_i again
      cases again.symm.trans (encoded.reads rest)
      rfl
    · rename_i missing
      cases missing.symm.trans (encoded.reads rest)

theorem multiline?_plain (plain : isControl c = false) (different : c ≠ quote)
    (noBackslash : (escapes && decide (c = '\\')) = false) (rest : Text) :
    multiline? quote escapes (c :: rest) =
      (multiline? quote escapes rest).map fun (text, last) => (c :: text, last) := by
  have goesOn := lineEnd?_of_not_isControl plain rest
  rw [multiline?, if_neg different, noBackslash, if_neg Bool.false_ne_true]
  split
  · rename_i ended
    cases ended.symm.trans goesOn
  · rw [plain, if_neg Bool.false_ne_true]

/-- Quotes that are written already count towards those that follow. -/
theorem multiline?_escaped (few : run ≤ 2) (text : Text) (other : behind.head? ≠ some '"') :
    multiline? '"' true (List.replicate run '"' ++ (escapeMultiline run text ++
      (List.replicate 3 '"' ++ behind))) = some (List.replicate run '"' ++ text, behind) := by
  induction text generalizing run with
  | nil => rw [escapeMultiline, List.nil_append, multiline?_closing few other, List.append_nil]
  | cons c more ih =>
    have fresh := ih (Nat.zero_le 2)
    simp only [List.replicate_zero, List.nil_append] at fresh
    rw [escapeMultiline]
    split
    · rename_i same
      subst same
      split
      · -- The third quote in a row is escaped, and the count begins again.
        have encoded : Encodes ['"'] '"' := ⟨fun _ => rfl, fun _ => joinedLine?_cons rfl rfl⟩
        have read := multiline?_code (show '"' ≠ '\\' by decide) encoded
          (escapeMultiline 0 more ++ (List.replicate 3 '"' ++ behind))
        rw [List.singleton_append, fresh] at read
        rw [List.cons_append, List.cons_append, multiline?_quotes few (by simp), read]
        rfl
      · have further := ih (show run + 1 ≤ 2 by omega)
        rw [List.cons_append, List.append_cons, ← List.replicate_succ', List.append_cons,
          ← List.replicate_succ']
        exact further
    · rename_i noQuote
      split
      · rename_i same
        subst same
        rw [List.cons_append, multiline?_quotes few (by simp), multiline?_newline (by decide),
          fresh]
        rfl
      · rw [List.append_assoc]
        rcases escapeChar_cases c with ⟨same, plain, noBackslash⟩ | ⟨code, coded, encoded⟩
        · rw [same, List.singleton_append, multiline?_quotes few (by simpa using noQuote),
            multiline?_plain plain noQuote (by simpa using noBackslash), fresh]
          rfl
        · rw [coded, List.cons_append, multiline?_quotes few (by simp),
            multiline?_code (by decide) encoded, fresh]
          rfl

/-- Without escapes, runs of quotes must be short by themselves. -/
theorem multiline?_literal (short : longestRun '\'' run text ≤ 2)
    (plain : ∀ c ∈ text, isControl c → c = '\n') (other : behind.head? ≠ some '\'') :
    multiline? '\'' false (List.replicate run '\'' ++ (text ++ (List.replicate 3 '\'' ++ behind))) =
      some (List.replicate run '\'' ++ text, behind) := by
  induction text generalizing run with
  | nil =>
    have few : run ≤ 2 := short
    rw [List.nil_append, multiline?_closing few other, List.append_nil]
  | cons c more ih =>
    obtain ⟨first, later⟩ := List.forall_mem_cons.mp plain
    rw [longestRun] at short
    split at short
    · rename_i same
      subst same
      rw [List.cons_append, List.append_cons, ← List.replicate_succ', List.append_cons,
        ← List.replicate_succ']
      exact ih short later
    · rename_i noQuote
      obtain ⟨few, short⟩ := Nat.max_le.mp short
      have fresh := ih short later
      simp only [List.replicate_zero, List.nil_append] at fresh
      rw [List.cons_append, multiline?_quotes few (by simpa using noQuote)]
      by_cases newline : c = '\n'
      · subst newline
        rw [multiline?_newline (by decide), fresh]
        rfl
      · have visible : isControl c = false := Bool.eq_false_iff.mpr fun control =>
          newline (first control)
        rw [multiline?_plain visible noQuote rfl, fresh]
        rfl

end Multiline

section Traits

theorem le_longestRun (quote : Char) (run : Nat) (text : Text) :
    run ≤ longestRun quote run text := by
  induction text generalizing run with
  | nil => exact Nat.le_refl run
  | cons c more ih =>
    rw [longestRun]
    split
    · exact Nat.le_of_succ_le (ih (run + 1))
    · exact Nat.le_max_left _ _

theorem not_mem_of_longestRun (none : longestRun quote 0 text = 0) : quote ∉ text := by
  induction text with
  | nil => exact List.not_mem_nil
  | cons c more ih =>
    rw [longestRun] at none
    split at none
    · have one := le_longestRun quote (0 + 1) more
      omega
    · rename_i different
      rw [Nat.max_eq_zero_iff] at none
      intro member
      rcases List.mem_cons.mp member with rfl | later
      · exact different rfl
      · exact ih none.2 later

theorem newline_of_controls (traits : (StringTraits.of text).controls = false) :
    ∀ c ∈ text, isControl c → c = '\n' := by
  intro c member control
  have all := List.any_eq_false.mp traits c member
  simpa [control] using all

theorem newline_not_mem (traits : (StringTraits.of text).newline = false) : '\n' ∉ text := by
  intro member
  have held : text.contains '\n' := List.contains_iff_mem.mpr member
  exact Bool.false_ne_true (traits.symm.trans held)

theorem not_isControl_of_traits (controls : (StringTraits.of text).controls = false)
    (newline : (StringTraits.of text).newline = false) : ∀ c ∈ text, isControl c = false := by
  intro c member
  refine Bool.eq_false_iff.mpr fun control => newline_not_mem newline ?_
  rw [← newline_of_controls controls c member control]
  exact member

theorem traits_of_form_eq_literal {traits : StringTraits} (form : traits.form = .literal) :
    traits.controls = false ∧ traits.singleQuotes = 0 ∧ traits.newline = false := by
  unfold StringTraits.form at form
  grind

theorem traits_of_form_eq_multilineLiteral {traits : StringTraits}
    (form : traits.form = .multilineLiteral) :
    traits.controls = false ∧ traits.singleQuotes ≤ 2 := by
  unfold StringTraits.form at form
  grind

end Traits

section Forms

theorem string?_basic (single : ∀ more, rest ≠ '"' :: '"' :: more) :
    string? ('"' :: rest) = basic? rest := by
  unfold string?
  split
  · rename_i same
    exact absurd (List.cons.inj same).2 (single _)
  · rename_i same
    cases same
  · rename_i same
    rw [(List.cons.inj same).2]
  · rename_i same
    cases same
  · rename_i missing _
    exact absurd rfl (missing _)

theorem string?_literal (single : ∀ more, rest ≠ '\'' :: '\'' :: more) :
    string? ('\'' :: rest) = literal? rest := by
  unfold string?
  split
  · rename_i same
    cases same
  · rename_i same
    exact absurd (List.cons.inj same).2 (single _)
  · rename_i same
    cases same
  · rename_i same
    rw [(List.cons.inj same).2]
  · rename_i missing
    exact absurd rfl (missing _)

/-- Behind the opening quotes a line end is dropped that was written for it, and no other. -/
theorem dropFirstLineEnd_openingLineEnd {traits : StringTraits}
    (start : traits.newline = false → lineEnd? rest = none) :
    dropFirstLineEnd (openingLineEnd traits ++ rest) = rest := by
  rw [openingLineEnd]
  cases newline : traits.newline with
  | true => rfl
  | false =>
    rw [if_neg Bool.false_ne_true, List.nil_append, dropFirstLineEnd, start newline,
      Option.getD_none]

theorem string?_writeBasic (text : Text) (other : behind.head? ≠ some '"') :
    string? ('"' :: (text.flatMap escapeOneLine ++ '"' :: behind)) = some (text, behind) := by
  rw [string?_basic, basic?_escaped]
  intro more same
  cases text with
  | nil =>
    apply other
    rw [(List.cons.inj same).2, List.head?_cons]
  | cons c text =>
    rw [List.flatMap_cons, List.append_assoc] at same
    rcases escapeOneLine_cases c with ⟨plain, -, -, noQuote⟩ | ⟨code, coded, -⟩
    · rw [plain] at same
      exact noQuote (List.cons.inj same).1
    · rw [coded] at same
      cases same

theorem string?_writeLiteral (noQuote : '\'' ∉ text) (plain : ∀ c ∈ text, isControl c = false)
    (other : behind.head? ≠ some '\'') :
    string? ('\'' :: (text ++ '\'' :: behind)) = some (text, behind) := by
  rw [string?_literal, literal?_append noQuote plain]
  intro more same
  cases text with
  | nil =>
    apply other
    rw [(List.cons.inj same).2, List.head?_cons]
  | cons c text =>
    apply noQuote
    rw [(List.cons.inj same).1]
    exact List.mem_cons_self

theorem string?_writeMultilineBasic (text : Text) (other : behind.head? ≠ some '"') :
    string? (List.replicate 3 '"' ++ (openingLineEnd (.of text) ++ (escapeMultiline 0 text ++
      (List.replicate 3 '"' ++ behind)))) = some (text, behind) := by
  have read := multiline?_escaped (Nat.zero_le 2) text other
  simp only [List.replicate_zero, List.nil_append] at read
  have opened : string? (List.replicate 3 '"' ++ (openingLineEnd (.of text) ++
      (escapeMultiline 0 text ++ (List.replicate 3 '"' ++ behind)))) =
      multiline? '"' true (dropFirstLineEnd (openingLineEnd (.of text) ++
        (escapeMultiline 0 text ++ (List.replicate 3 '"' ++ behind)))) := rfl
  rw [opened, dropFirstLineEnd_openingLineEnd, read]
  intro newline
  cases text with
  | nil => rfl
  | cons c more =>
    have noNewline : c ≠ '\n' := by
      rintro rfl
      exact newline_not_mem newline List.mem_cons_self
    rw [escapeMultiline]
    split
    · rfl
    · rw [List.append_assoc]
      rcases escapeChar_cases c with ⟨same, plain, -⟩ | ⟨code, coded, -⟩
      · rw [same]
        exact lineEnd?_of_not_isControl plain _
      · rw [coded]
        rfl

theorem string?_writeMultilineLiteral (controls : (StringTraits.of text).controls = false)
    (short : (StringTraits.of text).singleQuotes ≤ 2) (other : behind.head? ≠ some '\'') :
    string? (List.replicate 3 '\'' ++ (openingLineEnd (.of text) ++ (text ++
      (List.replicate 3 '\'' ++ behind)))) = some (text, behind) := by
  have read := multiline?_literal short (newline_of_controls controls) other
  simp only [List.replicate_zero, List.nil_append] at read
  have opened : string? (List.replicate 3 '\'' ++ (openingLineEnd (.of text) ++ (text ++
      (List.replicate 3 '\'' ++ behind)))) =
      multiline? '\'' false (dropFirstLineEnd (openingLineEnd (.of text) ++ (text ++
        (List.replicate 3 '\'' ++ behind)))) := rfl
  rw [opened, dropFirstLineEnd_openingLineEnd, read]
  intro newline
  have plain := not_isControl_of_traits controls newline
  cases text with
  | nil => rfl
  | cons c more => exact lineEnd?_of_not_isControl (plain c List.mem_cons_self) _

/-- A string is read back from each of its forms, up to something that is no quote. -/
theorem string?_writeString (text : Text) (noDouble : behind.head? ≠ some '"')
    (noSingle : behind.head? ≠ some '\'') :
    string? (writeString text ++ behind) = some (text, behind) := by
  rw [writeString]
  cases form : (StringTraits.of text).form with
  | basic =>
    simp only [List.cons_append, List.append_assoc, List.nil_append]
    exact string?_writeBasic text noDouble
  | literal =>
    obtain ⟨controls, none, newline⟩ := traits_of_form_eq_literal form
    simp only [List.cons_append, List.append_assoc, List.nil_append]
    exact string?_writeLiteral (not_mem_of_longestRun none)
      (not_isControl_of_traits controls newline) noSingle
  | multilineBasic =>
    simp only [List.append_assoc]
    exact string?_writeMultilineBasic text noDouble
  | multilineLiteral =>
    obtain ⟨controls, short⟩ := traits_of_form_eq_multilineLiteral form
    simp only [List.append_assoc]
    exact string?_writeMultilineLiteral controls short noSingle

theorem exists_writeString_eq_cons (text : Text) :
    ∃ quote more, writeString text = quote :: more ∧ (quote = '"' ∨ quote = '\'') := by
  rw [writeString]
  cases (StringTraits.of text).form with
  | basic => exact ⟨_, _, rfl, .inl rfl⟩
  | literal => exact ⟨_, _, rfl, .inr rfl⟩
  | multilineBasic => exact ⟨_, _, rfl, .inl rfl⟩
  | multilineLiteral => exact ⟨_, _, rfl, .inr rfl⟩

end Forms

end DiagramEditor.Toml.Quoted

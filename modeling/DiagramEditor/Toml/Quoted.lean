import DiagramEditor.Text.Hex
import DiagramEditor.Toml.Layout

/-! Quoted strings of TOML, in four forms: in double quotes with escapes or in single
quotes without, on one line or, with tripled quotes, on several. A multi-line string
may begin with a line end that does not count; up to two quotes may stand right before
its closing delimiter and belong to the string. Line ends in a string stay as they are
written. -/
namespace DiagramEditor.Toml.Quoted

/-- The character with a code point, if there is one. -/
def scalar? (codePoint : Nat) : Option Char :=
  if codePoint.isValidChar then some (Char.ofNat codePoint) else none

/-- A code point in a fixed number of hexadecimal digits. -/
def codePoint? (value : Nat) : (digits : Nat) → Text → Option (Char × Text)
  | 0, rest => (scalar? value).map (·, rest)
  | _ + 1, [] => none
  | digits + 1, c :: rest =>
    (hexDigitValue? c).bind fun digit => codePoint? (value * 16 + digit) digits rest

/-- The character that an escape stands for. The backslash is behind us. -/
def escape? : Text → Option (Char × Text)
  | 'b' :: rest => some ('\x08', rest)
  | 't' :: rest => some ('\t', rest)
  | 'n' :: rest => some ('\n', rest)
  | 'f' :: rest => some ('\x0c', rest)
  | 'r' :: rest => some ('\r', rest)
  | 'e' :: rest => some ('\x1b', rest)
  | '"' :: rest => some ('"', rest)
  | '\\' :: rest => some ('\\', rest)
  | 'x' :: rest => codePoint? 0 2 rest
  | 'u' :: rest => codePoint? 0 4 rest
  | 'U' :: rest => codePoint? 0 8 rest
  | _ => none

theorem codePoint?_length {value digits : Nat} {rest behind : Text} {c : Char}
    (read : codePoint? value digits rest = some (c, behind)) : behind.length ≤ rest.length := by
  induction digits generalizing value rest with
  | zero =>
    simp only [codePoint?, Option.map_eq_some_iff, Prod.mk.injEq] at read
    obtain ⟨_, _, _, rfl⟩ := read
    exact Nat.le_refl _
  | succ digits ih =>
    cases rest with
    | nil => simp [codePoint?] at read
    | cons c rest =>
      simp only [codePoint?, Option.bind_eq_some_iff] at read
      obtain ⟨_, _, read⟩ := read
      exact Nat.le_succ_of_le (ih read)

theorem escape?_length {rest behind : Text} {c : Char} (read : escape? rest = some (c, behind)) :
    behind.length < rest.length := by
  unfold escape? at read
  split at read
  all_goals first
    | (simp only [Option.some.injEq, Prod.mk.injEq] at read
       obtain ⟨-, rfl⟩ := read
       exact Nat.lt_succ_self _)
    | exact Nat.lt_succ_of_le (codePoint?_length read)
    | contradiction

/-- Reads a one-line string with escapes up to its closing quote. -/
def basic? (rest : Text) : Option (Text × Text) :=
  match rest with
  | [] => none
  | '"' :: behind => some ([], behind)
  | '\\' :: escaped =>
    match _read : escape? escaped with
    | some (c, behind) => (basic? behind).map fun (text, last) => (c :: text, last)
    | none => none
  | c :: behind =>
    if isControl c then none else (basic? behind).map fun (text, last) => (c :: text, last)
termination_by rest.length
decreasing_by
  · have := escape?_length _read
    simp only [List.length_cons]
    omega
  · exact Nat.lt_succ_self _

/-- Reads a one-line string without escapes up to its closing quote. -/
def literal? : Text → Option (Text × Text)
  | [] => none
  | c :: behind =>
    if c = '\'' then some ([], behind)
    else if isControl c then none
    else (literal? behind).map fun (text, last) => (c :: text, last)

/-- What a run of quotes in a multi-line string is: part of the string, or its end,
with the quotes that belong to the string before it. -/
inductive QuoteRun where
  | inside
  | closing (kept : Nat)
  | tooLong

def QuoteRun.of (length : Nat) : QuoteRun :=
  if length < 3 then .inside else if length ≤ 5 then .closing (length - 3) else .tooLong

/-- Skips what a backslash at the end of a line joins: the line end and every blank and
line end behind it. -/
def joinedLine? (rest : Text) : Option Text :=
  (lineEnd? (skipBlanks rest)).map skipBlankLines
where
  /-- Skips blanks and line ends. -/
  skipBlankLines (rest : Text) : Text :=
    match _found : lineEnd? (skipBlanks rest) with
    | some behind => skipBlankLines behind
    | none => skipBlanks rest
  termination_by rest.length
  decreasing_by
    have := lineEnd?_length _found
    have := skipBlanks_length rest
    omega

theorem skipBlankLines_length (rest : Text) :
    (joinedLine?.skipBlankLines rest).length ≤ rest.length := by
  fun_induction joinedLine?.skipBlankLines rest with
  | case1 rest behind found ih =>
    have := lineEnd?_length found
    have := skipBlanks_length rest
    omega
  | case2 rest => exact skipBlanks_length rest

theorem joinedLine?_length {rest behind : Text} (found : joinedLine? rest = some behind) :
    behind.length < rest.length := by
  simp only [joinedLine?, Option.map_eq_some_iff] at found
  obtain ⟨next, ended, rfl⟩ := found
  have := lineEnd?_length ended
  have := skipBlanks_length rest
  have := skipBlankLines_length next
  omega

/-- Reads a multi-line string up to its closing quotes. `quote` is its quote, and a
backslash has a meaning if there are escapes. -/
def multiline? (quote : Char) (escapes : Bool) (rest : Text) : Option (Text × Text) :=
  match rest with
  | [] => none
  | c :: behind =>
    if c = quote then
      let more := (behind.takeWhile (· = quote)).length
      match QuoteRun.of (more + 1) with
      | .inside => (multiline? quote escapes (behind.drop more)).map fun (text, last) =>
          (List.replicate (more + 1) quote ++ text, last)
      | .closing kept => some (List.replicate kept quote, behind.drop more)
      | .tooLong => none
    else if escapes && c = '\\' then
      match _joined : joinedLine? behind with
      | some next => multiline? quote escapes next
      | none =>
        match _read : escape? behind with
        | some (c, next) => (multiline? quote escapes next).map fun (text, last) =>
            (c :: text, last)
        | none => none
    else
      match _ended : lineEnd? (c :: behind) with
      | some next => (multiline? quote escapes next).map fun (text, last) =>
          ((c :: behind).take (behind.length + 1 - next.length) ++ text, last)
      | none =>
        if isControl c then none
        else (multiline? quote escapes behind).map fun (text, last) => (c :: text, last)
termination_by rest.length
decreasing_by
  · simp only [List.length_drop, List.length_cons]; omega
  · have := joinedLine?_length _joined
    simp only [List.length_cons]
    omega
  · have := escape?_length _read
    simp only [List.length_cons]
    omega
  · exact lineEnd?_length _ended
  · exact Nat.lt_succ_self _

/-- The text without a line end at its start. -/
def dropFirstLineEnd (rest : Text) : Text := (lineEnd? rest).getD rest

/-- Reads a string of any form. -/
def string? : Text → Option (Text × Text)
  | '"' :: '"' :: '"' :: rest => multiline? '"' true (dropFirstLineEnd rest)
  | '\'' :: '\'' :: '\'' :: rest => multiline? '\'' false (dropFirstLineEnd rest)
  | '"' :: rest => basic? rest
  | '\'' :: rest => literal? rest
  | _ => none

/-- Reads a string of a one-line form. -/
def oneLine? : Text → Option (Text × Text)
  | '"' :: rest => basic? rest
  | '\'' :: rest => literal? rest
  | _ => none

end DiagramEditor.Toml.Quoted

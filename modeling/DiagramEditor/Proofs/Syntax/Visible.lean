import DiagramEditor.Proofs.Syntax.Blank
import DiagramEditor.Proofs.Syntax.Scan

/-! What is seen of a source: its tokens in their order, without their places, without
the white space between them and without the indent of a keyword. It is seen line by
line, and a blank at either end of a line makes no difference to it. -/
namespace DiagramEditor.Syntax

/-- The token is one character of white space that belongs to nothing else. -/
def Token.isBlank (token : Token) : Bool :=
  token.category = .plain && match token.text with
    | [c] => isWhitespace c
    | _ => false

/-- The class and the text of a token, a keyword without its indent. -/
def Token.face (token : Token) : Category × Text :=
  (token.category, if token.category = .keyword then token.text.trimStart else token.text)

def visible (tokens : List Token) : List (Category × Text) :=
  (tokens.filter (!·.isBlank)).map Token.face

theorem visible_append (front back : List Token) :
    visible (front ++ back) = visible front ++ visible back := by
  simp only [visible, List.filter_append, List.map_append]

theorem visible_singleton (token : Token) :
    visible [token] = if token.isBlank then [] else [token.face] := by
  cases blank : token.isBlank <;> simp [visible, blank]

theorem visible_shift (tokens : List Token) (distance : Nat) :
    visible (tokens.map (·.shift distance)) = visible tokens := by
  simp only [visible, List.filter_map, List.map_map]
  rfl

/-- What is seen of a text that is scanned from the start of a line, or from further on. -/
def seen (atLineStart : Bool) (text : Text) : List (Category × Text) :=
  visible (LineScanner.tokens ⟨if atLineStart then 0 else 1, text, {}⟩)

theorem visible_tokens (scanner : LineScanner) :
    visible scanner.tokens = seen (scanner.position = 0) scanner.rest := by
  obtain ⟨position, rest, state⟩ := scanner
  cases position with
  | zero =>
    have moved := LineScanner.tokens_move ⟨0, rest, {}⟩ 0 state (fun _ => rfl)
    exact (congrArg visible moved).trans (visible_shift _ _)
  | succ position =>
    have moved := LineScanner.tokens_move ⟨1, rest, {}⟩ position state (by simp)
    rw [Nat.add_comm] at moved
    exact (congrArg visible moved).trans (visible_shift _ _)

@[simp] theorem seen_nil (atLineStart : Bool) : seen atLineStart [] = [] := by
  rw [seen, LineScanner.tokens_nil]
  rfl

/-- Behind the first token of a text no keyword is looked for. -/
theorem seen_cons (atLineStart : Bool) (c : Char) (more : Text) :
    seen atLineStart (c :: more) =
      visible [⟨(classifyStart atLineStart (c :: more)).1,
        (c :: more).take (classifyStart atLineStart (c :: more)).2, default⟩] ++
        seen false ((c :: more).drop (classifyStart atLineStart (c :: more)).2) := by
  have step := LineScanner.next?_cons (if atLineStart then 0 else 1) c more {}
  have same : decide ((if atLineStart then 0 else 1) = 0) = atLineStart := by
    cases atLineStart <;> rfl
  rw [same] at step
  obtain ⟨nonempty, -⟩ := LineScanner.next?_cuts step
  have further : 0 < Text.size ((c :: more).take (classifyStart atLineStart (c :: more)).2) :=
    Text.size_pos nonempty
  have behind : ¬ (if atLineStart then 0 else 1) +
      Text.size ((c :: more).take (classifyStart atLineStart (c :: more)).2) = 0 := by
    omega
  rw [seen, LineScanner.tokens_of_next? step, ← List.singleton_append, visible_append,
    visible_tokens, decide_eq_false behind, visible_singleton, visible_singleton]
  rfl

theorem seen_of_isBlank {blank : Text} (white : blank.IsBlank) (atLineStart : Bool) :
    seen atLineStart blank = [] := by
  induction blank generalizing atLineStart with
  | nil => exact seen_nil atLineStart
  | cons c more ih =>
    have plain : classifyStart atLineStart (c :: more) = (.plain, 1) :=
      (classifyStart_append_blank white atLineStart []).trans (by cases atLineStart <;> rfl)
    have hidden : Token.isBlank ⟨.plain, [c], default⟩ := white c List.mem_cons_self
    rw [seen_cons, plain, List.take_succ_cons, List.take_zero, visible_singleton, if_pos hidden]
    exact ih (fun d member => white d (List.mem_cons_of_mem _ member)) false

/-- A blank at the end of a line is not seen, and it changes nothing in front of it. -/
theorem seen_append_blank {blank : Text} (white : blank.IsBlank) (atLineStart : Bool)
    (text : Text) : seen atLineStart (text ++ blank) = seen atLineStart text := by
  induction count : text.length using Nat.strongRecOn generalizing atLineStart text with
  | ind bound ih =>
    cases text with
    | nil => rw [List.nil_append, seen_of_isBlank white, seen_nil]
    | cons c more =>
      have begins := classifyStart_append_blank white atLineStart (c :: more)
      obtain ⟨positive, inside⟩ := classifyStart_bounds atLineStart c more
      have shorter :
          ((c :: more).drop (classifyStart atLineStart (c :: more)).2).length < bound := by
        rw [List.length_drop, count]
        omega
      rw [List.cons_append] at begins ⊢
      rw [seen_cons, seen_cons, begins, ← List.cons_append, List.take_append_of_le_length inside,
        List.drop_append_of_le_length inside, ih _ shorter _ _ rfl]

theorem seen_of_keywordLength?_eq_none {line : Text} (none : keywordLength? line = none) :
    seen true line = seen false line := by
  cases line with
  | nil => rw [seen_nil, seen_nil]
  | cons c more =>
    have same : classifyStart true (c :: more) = classifyStart false (c :: more) := by
      simp [classifyStart, none]
    rw [seen_cons, seen_cons, same]

theorem seen_of_keywordLength?_eq_some {line : Text} {length : Nat}
    (keyword : keywordLength? line = some length) :
    seen true line =
      (.keyword, Text.trimStart (line.take length)) :: seen false (line.drop length) := by
  cases line with
  | nil => contradiction
  | cons c more =>
    have start : classifyStart true (c :: more) = (.keyword, length) := by
      simp [classifyStart, keyword]
    rw [seen_cons, start, visible_singleton]
    rfl

theorem seen_false_blank_append {blank : Text} (white : blank.IsBlank) (text : Text) :
    seen false (blank ++ text) = seen false text := by
  induction blank with
  | nil => rfl
  | cons c more ih =>
    have first := white c List.mem_cons_self
    have hidden : Token.isBlank ⟨.plain, [c], default⟩ := first
    rw [List.cons_append, seen_cons, classifyStart_of_isWhitespace first, List.take_succ_cons,
      List.take_zero, visible_singleton, if_pos hidden]
    exact ih fun d member => white d (List.mem_cons_of_mem _ member)

/-- An indent is not seen. It goes with the keyword of the line, or it stands by itself. -/
theorem seen_blank_append {blank : Text} (white : blank.IsBlank) (line : Text) :
    seen true (blank ++ line) = seen true line := by
  have further := keywordLength?_blank_append white line
  cases keyword : keywordLength? line with
  | none =>
    rw [keyword] at further
    rw [seen_of_keywordLength?_eq_none further, seen_false_blank_append white,
      seen_of_keywordLength?_eq_none keyword]
  | some length =>
    rw [keyword, Option.map_some] at further
    rw [seen_of_keywordLength?_eq_some further, seen_of_keywordLength?_eq_some keyword,
      List.take_length_add_append, List.drop_length_add_append, Text.trimStart_blank_append white]

end DiagramEditor.Syntax

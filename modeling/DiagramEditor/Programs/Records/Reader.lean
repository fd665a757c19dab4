import DiagramEditor.Programs.Records.Token

/-! Reading scripts over records. Operators bind in the order in which arithmetic, texts one
behind the other, comparisons, searches and logic have to; an assignment may stand wherever its
place may. -/
namespace DiagramEditor.Records

abbrev Parser := StateT (List Located) (Except Fault)

namespace Parser

def peek : Parser Token := return ((← get).headD default).token

def advance : Parser Unit := modify List.tail

/-- The next token has no place here. -/
def unexpected {α : Type} : Parser α := do
  let found := (← get).headD default
  match found.token with
  | .fault complaint => throw ⟨found.line, complaint⟩
  | token => throw ⟨found.line, .near token.describe⟩

def isSign (text : String) : Parser Bool :=
  return match ← peek with
    | .sign found => found = text
    | _ => false

/-- Takes a word if it comes next. -/
def takeWord (text : String) : Parser Bool := do
  let found := match ← peek with
    | .word found => found = text
    | _ => false
  if found then advance
  return found

/-- Takes a sign if it comes next. -/
def takeSign (text : String) : Parser Bool := do
  let found ← isSign text
  if found then advance
  return found

def expect (text : String) : Parser Unit := do
  if !(← takeSign text) then unexpected

def skipLineEnds : Parser Unit := modify (·.dropWhile fun found => found.token matches .lineEnd)

/-- Whether a statement ends before the next token. -/
def isAtEnd : Parser Bool :=
  return match ← peek with
    | .sign text => text = ";" || text = "\x7d"
    | .lineEnd | .fileEnd => true
    | _ => false

/-- Takes the end of a simple statement. A brace stays. -/
def endStatement : Parser Unit := do
  match ← peek with
  | .sign ";" =>
    advance
    skipLineEnds
  | .lineEnd => skipLineEnds
  | .sign "\x7d" | .fileEnd => return
  | _ => unexpected

/-- Whether a token can start a text that stands behind another one. -/
def startsText : Token → Bool
  | .number _ _ | .text _ | .pattern _ | .name _ | .builtin _ _ => true
  | .sign text => ["$", "!", "(", "++", "--"].contains text
  | _ => false

def operation? (text : String) : Option Operation :=
  [("+", .add), ("-", .subtract), ("*", .multiply), ("/", .divide), ("%", .remainder),
    ("^", .power)].lookup text

def comparison? (text : String) : Option Comparison :=
  [("<", .less), ("<=", .atMost), ("==", .equal), ("!=", .unequal), (">", .greater),
    (">=", .atLeast)].lookup text

/-- The operation of a sign for an assignment, which a plain one does not have. -/
def assignment? (text : String) : Option (Option Operation) :=
  if text = "=" then some none
  else if text.endsWith "=" && (comparison? text).isNone then
    (operation? (String.ofList (text.toList.take 1))).map some
  else none

/-- The least and the greatest number of arguments of a function. -/
def argumentCounts : Builtin → Nat × Nat
  | .length => (0, 1)
  | .substring => (2, 3)
  | .index => (2, 2)
  | .format => (1, 1000)
  | _ => (1, 1)

mutual

/-- Reads an expression. -/
def expression : (fuel : Nat) → Parser Expr
  | 0 => unexpected
  | fuel + 1 => do
    let condition ← binary fuel 0
    if ← takeSign "?" then
      let yes ← expression fuel
      expect ":"
      return .choice condition yes (← expression fuel)
    else return condition

/-- Reads operands of a level, the loosest of which is zero, and what is between them. -/
def binary : (fuel : Nat) → (level : Nat) → Parser Expr
  | 0, _ => unexpected
  | fuel + 1, level => do
    let left ← if 6 ≤ level then unary fuel else binary fuel (level + 1)
    let assigns? : Option (Option Operation) := match level, ← peek with
      | 4, .sign text => if left.isPlace then assignment? text else none
      | _, _ => none
    match assigns? with
    | some operation? =>
      advance
      return .assign operation? left (← expression fuel)
    | none => more fuel level left

/-- Reads what is behind an operand of a level. -/
def more : (fuel : Nat) → (level : Nat) → Expr → Parser Expr
  | 0, _, left => return left
  | fuel + 1, level, left => do
    match level, ← peek with
    | 0, .sign "||" =>
      advance
      skipLineEnds
      more fuel level (.either left (← binary fuel 1))
    | 1, .sign "&&" =>
      advance
      skipLineEnds
      more fuel level (.both left (← binary fuel 2))
    | 2, .sign "~" =>
      advance
      more fuel level (.isFound false left (← binary fuel 3))
    | 2, .sign "!~" =>
      advance
      more fuel level (.isFound true left (← binary fuel 3))
    | 3, .sign text =>
      match comparison? text with
      | some comparison =>
        advance
        more fuel level (.compare comparison left (← binary fuel 4))
      | none => return left
    | 4, token =>
      if startsText token then more fuel level (.concatenate left (← binary fuel 5))
      else return left
    | 5, .sign text =>
      match operation? text with
      | some .add | some .subtract =>
        advance
        let operation := (operation? text).getD .add
        more fuel level (.calculate operation left (← binary fuel 6))
      | _ => return left
    | 6, .sign text =>
      match operation? text with
      | some .multiply | some .divide | some .remainder =>
        advance
        let operation := (operation? text).getD .multiply
        more fuel level (.calculate operation left (← unary fuel))
      | _ => return left
    | _, _ => return left

/-- Reads an operand with its signs. -/
def unary : (fuel : Nat) → Parser Expr
  | 0 => unexpected
  | fuel + 1 => do
    if ← takeSign "!" then return .negate (← unary fuel)
    else if ← takeSign "-" then return .sign true (← unary fuel)
    else if ← takeSign "+" then return .sign false (← unary fuel)
    else
      let base ← stepped fuel
      if ← takeSign "^" then return .calculate .power base (← unary fuel) else return base

/-- Reads an operand without signs, and whether it is counted up or down. -/
def stepped : (fuel : Nat) → Parser Expr
  | 0 => unexpected
  | fuel + 1 => do
    let operand ← primary fuel
    if operand.isPlace then
      if ← takeSign "++" then return .step false 1 operand
      else if ← takeSign "--" then return .step false (-1) operand
      else return operand
    else return operand

/-- Reads a constant, a place, a call, or what stands between parentheses. -/
def primary : (fuel : Nat) → Parser Expr
  | 0 => unexpected
  | fuel + 1 => do
    match ← peek with
    | .number value _ =>
      advance
      return .number value
    | .text content =>
      advance
      return .text content
    | .pattern source =>
      advance
      return .pattern source
    | .name name =>
      advance
      return .named name
    | .sign "(" =>
      advance
      let body ← expression fuel
      expect ")"
      return .group body
    | .sign "$" =>
      advance
      return .field (← primary fuel)
    | .sign "++" =>
      advance
      return .step true 1 (← place fuel)
    | .sign "--" =>
      advance
      return .step true (-1) (← place fuel)
    | .builtin _ function =>
      advance
      let items ← if function = .length && !(← isSign "(") then pure []
        else do
          expect "("
          let items ← if ← isSign ")" then pure [] else list fuel
          let (least, most) := argumentCounts function
          if items.length < least || most < items.length then unexpected
          expect ")"
          pure items
      return .apply function items
    | _ => unexpected

/-- Reads a place that is counted up or down before it is looked at. -/
def place : (fuel : Nat) → Parser Expr
  | 0 => unexpected
  | fuel + 1 => do
    let found ← primary fuel
    if found.isPlace then return found else unexpected

/-- Reads expressions with commas between them. -/
def list : (fuel : Nat) → Parser (List Expr)
  | 0 => unexpected
  | fuel + 1 => do
    let first ← expression fuel
    if ← takeSign "," then
      skipLineEnds
      return first :: (← list fuel)
    else return [first]

end

/-- What is to be printed: all of a list between parentheses, or expressions. -/
def printed (fuel : Nat) : Parser (List Expr) := do
  if ← isAtEnd then return []
  else
    let grouped : Parser (List Expr) := do
      expect "("
      let items ← list fuel
      expect ")"
      if ← isAtEnd then return items else unexpected
    match grouped.run (← get) with
    | .ok (items, behind) =>
      set behind
      return items
    | .error _ => list fuel

/-- Reads a statement without a part that is a statement. -/
def simple (fuel : Nat) : Parser Statement := do
  if ← takeWord "print" then return .print (← printed fuel)
  else if ← takeWord "printf" then
    let items ← printed fuel
    if items.isEmpty then unexpected else return .format items
  else if ← takeWord "break" then return .leave
  else if ← takeWord "continue" then return .goOn
  else if ← takeWord "next" then return .nextRecord
  else if ← takeWord "exit" then
    return .exit (← if ← isAtEnd then pure none else some <$> expression fuel)
  else return .evaluate (← expression fuel)

mutual

/-- Reads a statement. -/
def statement : (fuel : Nat) → Parser Statement
  | 0 => unexpected
  | fuel + 1 => do
    if ← takeSign ";" then
      skipLineEnds
      return .nothing
    else if ← isSign "\x7b" then block fuel
    else if ← takeWord "if" then
      let condition ← condition fuel
      let yes ← statement fuel
      if ← takeWord "else" then
        skipLineEnds
        return .choice condition yes (← statement fuel)
      else return .choice condition yes .nothing
    else if ← takeWord "while" then
      let condition ← condition fuel
      return .loop (some condition) .nothing (← statement fuel)
    else if ← takeWord "for" then loop fuel
    else
      let found ← simple fuel
      endStatement
      return found

/-- Reads a condition between parentheses. -/
def condition : (fuel : Nat) → Parser Expr
  | 0 => unexpected
  | fuel + 1 => do
    expect "("
    let found ← expression fuel
    expect ")"
    skipLineEnds
    return found

/-- Reads a loop with a start and a step. -/
def loop : (fuel : Nat) → Parser Statement
  | 0 => unexpected
  | fuel + 1 => do
    expect "("
    let optional (sign : String) : Parser (Option Expr) := do
      let found ← if ← isSign sign then pure none else some <$> expression fuel
      expect sign
      skipLineEnds
      return found
    let ofOption (found? : Option Expr) : Statement :=
      (found?.map Statement.evaluate).getD .nothing
    let start ← optional ";"
    let condition ← optional ";"
    let step ← optional ")"
    return .sequence (ofOption start) (.loop condition (ofOption step) (← statement fuel))

/-- Reads statements between braces. -/
def block : (fuel : Nat) → Parser Statement
  | 0 => unexpected
  | fuel + 1 => do
    expect "\x7b"
    skipLineEnds
    let found ← statements fuel
    expect "\x7d"
    skipLineEnds
    return found

def statements : (fuel : Nat) → Parser Statement
  | 0 => unexpected
  | fuel + 1 => do
    if ← isSign "\x7d" then return .nothing
    else
      let first ← statement fuel
      return .sequence first (← statements fuel)

end

/-- Reads the action of a rule, which is to print the record if none is given. -/
def action (fuel : Nat) : Parser Statement := do
  if ← isSign "\x7b" then block fuel
  else if ← isAtEnd then return .print []
  else unexpected

/-- Reads a rule, or what is done before or behind all records. -/
def part (fuel : Nat) (script : Script) : Parser Script := do
  if ← takeWord "BEGIN" then return { script with before := script.before ++ [← block fuel] }
  else if ← takeWord "END" then return { script with behind := script.behind ++ [← block fuel] }
  else
    let condition? ← if ← isSign "\x7b" then pure none else some <$> expression fuel
    return { script with rules := script.rules ++ [⟨condition?, ← action fuel⟩] }

def parts : (fuel : Nat) → Script → Parser Script
  | 0, script => return script
  | fuel + 1, script => do
    skipLineEnds
    if (← peek) matches .fileEnd then return script
    else
      let grown ← part fuel script
      skipLineEnds
      let _ ← takeSign ";"
      parts fuel grown

end Parser

/-- Reads a script, or finds what is wrong with it. -/
def Script.parse (source : Raw) : Except Fault Script := do
  let tokens := tokens (source.length + 2) 1 false (source ++ ['\n'])
  let (script, _) ← (Parser.parts (40 * tokens.length + 40) {}).run tokens
  return script

end DiagramEditor.Records

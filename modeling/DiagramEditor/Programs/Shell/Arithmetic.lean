import DiagramEditor.Programs.CharacterSet
import DiagramEditor.Programs.Printf

/-! Arithmetic in scripts: expressions over 64-bit integers that wrap around, with the
operators and their precedence as in C. A name stands for the number that its variable
holds, zero if it holds none. -/
namespace DiagramEditor.Shell

inductive ArithmeticError where
  | expecting (what : String)
  | divisionByZero
  | overflow
  | illegalNumber (text : Raw)
deriving DecidableEq, Repr

/-- An operator between two numbers. -/
inductive Operation where
  | times | over | modulo | plus | minus | shiftLeft | shiftRight
  | less | atMost | greater | atLeast | equal | unequal | bitAnd | bitXor | bitOr
deriving DecidableEq, Repr

inductive Arithmetic where
  | number (value : Int64)
  | named (name : Raw)
  | negative (operand : Arithmetic)
  | complement (operand : Arithmetic)
  | negation (operand : Arithmetic)
  | binary (operation : Operation) (left right : Arithmetic)
  | both (left right : Arithmetic)
  | either (left right : Arithmetic)
  | choice (condition yes no : Arithmetic)
  | assign (name : Raw) (operation? : Option Operation) (value : Arithmetic)
deriving Repr, Inhabited

namespace Arithmetic

inductive Token where
  | number (value : Int64)
  | named (name : Raw)
  | sign (text : String)
deriving DecidableEq, Repr

/-- The greatest number; what is read beyond it counts as it. -/
def greatest : Nat := 0x7FFFFFFFFFFFFFFF

/-- The signs, longer ones before those that they start with. -/
def signs : List String :=
  ["<<=", ">>=", "<<", ">>", "<=", ">=", "==", "!=", "&&", "||", "+=", "-=", "*=", "/=", "%=",
    "&=", "^=", "|=", "(", ")", "+", "-", "*", "/", "%", "<", ">", "!", "~", "&", "^", "|",
    "?", ":", "="]

/-- Cuts an expression into tokens. A character that belongs to none is a sign that no rule
takes. -/
def tokens : (fuel : Nat) → Raw → List Token
  | 0, _ => []
  | _, [] => []
  | fuel + 1, c :: rest =>
    if c = ' ' || c = '\t' || c = '\n' then tokens fuel rest
    else if c.isDigit then
      let (value, behind) := Printf.magnitude (c :: rest)
      .number (Int64.ofNat (min value greatest)) :: tokens fuel behind
    else if c.isAlpha || c = '_' then
      let name := (c :: rest).takeWhile fun d => d.isAlphanum || d = '_'
      .named name :: tokens fuel ((c :: rest).drop name.length)
    else
      match signs.find? fun sign => sign.toList.isPrefixOf (c :: rest) with
      | some sign => .sign sign :: tokens fuel ((c :: rest).drop sign.length)
      | none => [.sign "unknown"]

/-- An operator of a sign with its precedence; the smaller binds the tighter. -/
def operation? : String → Option (Operation × Nat)
  | "*" => some (.times, 0) | "/" => some (.over, 0) | "%" => some (.modulo, 0)
  | "+" => some (.plus, 1) | "-" => some (.minus, 1)
  | "<<" => some (.shiftLeft, 2) | ">>" => some (.shiftRight, 2)
  | "<" => some (.less, 3) | "<=" => some (.atMost, 3)
  | ">" => some (.greater, 3) | ">=" => some (.atLeast, 3)
  | "==" => some (.equal, 4) | "!=" => some (.unequal, 4)
  | "&" => some (.bitAnd, 5) | "^" => some (.bitXor, 6) | "|" => some (.bitOr, 7)
  | _ => none

/-- The operation of an assignment; the plain one has none. -/
def assignment? : String → Option (Option Operation)
  | "=" => some none
  | "*=" => some (some .times) | "/=" => some (some .over) | "%=" => some (some .modulo)
  | "+=" => some (some .plus) | "-=" => some (some .minus)
  | "<<=" => some (some .shiftLeft) | ">>=" => some (some .shiftRight)
  | "&=" => some (some .bitAnd) | "^=" => some (some .bitXor) | "|=" => some (some .bitOr)
  | _ => none

abbrev Reading := Except ArithmeticError (Arithmetic × List Token)

mutual

def readAssignment : (fuel : Nat) → List Token → Reading
  | 0, _ => .error (.expecting "primary")
  | fuel + 1, tokens =>
    match tokens with
    | .named name :: .sign sign :: rest =>
      match assignment? sign with
      | some operation? => do
        let (value, behind) ← readAssignment fuel rest
        return (.assign name operation? value, behind)
      | none => readChoice fuel tokens
    | _ => readChoice fuel tokens

def readChoice : (fuel : Nat) → List Token → Reading
  | 0, _ => .error (.expecting "primary")
  | fuel + 1, tokens => do
    let (condition, behind) ← readEither fuel tokens
    match behind with
    | .sign "?" :: rest =>
      let (yes, behind) ← readAssignment fuel rest
      match behind with
      | .sign ":" :: rest =>
        let (no, behind) ← readChoice fuel rest
        return (.choice condition yes no, behind)
      | _ => .error (.expecting "':'")
    | _ => return (condition, behind)

def readEither : (fuel : Nat) → List Token → Reading
  | 0, _ => .error (.expecting "primary")
  | fuel + 1, tokens => do
    let (left, behind) ← readBoth fuel tokens
    match behind with
    | .sign "||" :: rest =>
      let (right, behind) ← readEither fuel rest
      return (.either left right, behind)
    | _ => return (left, behind)

def readBoth : (fuel : Nat) → List Token → Reading
  | 0, _ => .error (.expecting "primary")
  | fuel + 1, tokens => do
    let (first, behind) ← readPrimary fuel tokens
    let (left, behind) ← readBinary fuel 8 first behind
    match behind with
    | .sign "&&" :: rest =>
      let (right, behind) ← readBoth fuel rest
      return (.both left right, behind)
    | _ => return (left, behind)

/-- Reads the operators behind an operand that bind tighter than a limit. -/
def readBinary : (fuel : Nat) → (limit : Nat) → Arithmetic → List Token → Reading
  | 0, _, _, _ => .error (.expecting "primary")
  | fuel + 1, limit, left, tokens =>
    match tokens with
    | .sign sign :: rest =>
      match operation? sign with
      | some (operation, precedence) =>
        if precedence < limit then do
          let (first, behind) ← readPrimary fuel rest
          let (right, behind) ← readBinary fuel precedence first behind
          readBinary fuel limit (.binary operation left right) behind
        else return (left, tokens)
      | none => return (left, tokens)
    | _ => return (left, tokens)

def readPrimary : (fuel : Nat) → List Token → Reading
  | 0, _ => .error (.expecting "primary")
  | fuel + 1, tokens =>
    match tokens with
    | .number value :: rest => return (.number value, rest)
    | .named name :: rest => return (.named name, rest)
    | .sign "(" :: rest => do
      let (inner, behind) ← readAssignment fuel rest
      match behind with
      | .sign ")" :: last => return (inner, last)
      | _ => .error (.expecting "')'")
    | .sign "+" :: rest => readPrimary fuel rest
    | .sign "-" :: rest => do
      let (operand, behind) ← readPrimary fuel rest
      return (.negative operand, behind)
    | .sign "~" :: rest => do
      let (operand, behind) ← readPrimary fuel rest
      return (.complement operand, behind)
    | .sign "!" :: rest => do
      let (operand, behind) ← readPrimary fuel rest
      return (.negation operand, behind)
    | _ => .error (.expecting "primary")

end

/-- Reads a whole expression. -/
def parse (text : Raw) : Except ArithmeticError Arithmetic :=
  let tokens := tokens (text.length + 1) text
  match readAssignment (8 * tokens.length + 8) tokens with
  | .error error => .error error
  | .ok (expression, []) => .ok expression
  | .ok _ => .error (.expecting "EOF")

def ofBool (holds : Bool) : Int64 := if holds then 1 else 0

def Operation.apply (operation : Operation) (a b : Int64) : Except ArithmeticError Int64 :=
  match operation with
  | .times => .ok (a * b)
  | .over => divided (a / b)
  | .modulo => divided (a % b)
  | .plus => .ok (a + b)
  | .minus => .ok (a - b)
  | .shiftLeft => .ok (a <<< b)
  | .shiftRight => .ok (a >>> b)
  | .less => .ok (ofBool (a < b))
  | .atMost => .ok (ofBool (a ≤ b))
  | .greater => .ok (ofBool (b < a))
  | .atLeast => .ok (ofBool (b ≤ a))
  | .equal => .ok (ofBool (a = b))
  | .unequal => .ok (ofBool (a ≠ b))
  | .bitAnd => .ok (a &&& b)
  | .bitXor => .ok (a ^^^ b)
  | .bitOr => .ok (a ||| b)
where
  /-- A quotient or a remainder. The greatest quotient fits into no number. -/
  divided (result : Int64) : Except ArithmeticError Int64 :=
    if b = 0 then .error .divisionByZero
    else if a = Int64.minValue ∧ b = -1 then .error .overflow
    else .ok result

/-- The number that a text holds, with blanks around it; an empty text holds zero. -/
def numberOf (text : Raw) : Except ArithmeticError Int64 :=
  let blank (c : Char) : Bool := inCharacterClass "space" c
  let body := text.dropWhile blank
  let negative : Bool := body.head? = some '-'
  let (value, behind) := Printf.magnitude
    (if negative || body.head? = some '+' then body.tail else body)
  if !(behind.dropWhile blank).isEmpty || greatest + negative.toNat < value then
    .error (.illegalNumber text)
  else .ok (if negative then -Int64.ofNat value else Int64.ofNat value)

def text (value : Int64) : Raw := (toString value.toInt).toList

/-- The variables that an expression has set, and those from before. -/
abbrev Evaluation := StateT (List (Raw × Raw)) (Except ArithmeticError)

/-- The value of an expression over variables. -/
def evaluate : Arithmetic → Evaluation Int64
  | number value => return value
  | named name => do
    match numberOf (((← get).lookup name).getD []) with
    | .ok value => return value
    | .error error => throw error
  | negative operand => return -(← evaluate operand)
  | complement operand => return ~~~(← evaluate operand)
  | negation operand => return ofBool ((← evaluate operand) = 0)
  | binary operation left right => do
    let a ← evaluate left
    let b ← evaluate right
    match Operation.apply operation a b with
    | .ok value => return value
    | .error error => throw error
  | both left right => do
    let a ← evaluate left
    if a = 0 then return 0 else return ofBool ((← evaluate right) ≠ 0)
  | either left right => do
    let a ← evaluate left
    if a = 0 then return ofBool ((← evaluate right) ≠ 0) else return 1
  | choice condition yes no => do
    let a ← evaluate condition
    if a = 0 then evaluate no else evaluate yes
  | assign name operation? value => do
    let b ← evaluate value
    let result ← match operation? with
      | none => pure b
      | some operation =>
        match numberOf (((← get).lookup name).getD []) with
        | .error error => throw error
        | .ok a =>
          match Operation.apply operation a b with
          | .ok value => pure value
          | .error error => throw error
    modify ((name, text result) :: ·)
    return result

end Arithmetic
end DiagramEditor.Shell

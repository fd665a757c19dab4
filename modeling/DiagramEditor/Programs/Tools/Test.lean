import DiagramEditor.Programs.Tools.Basic
import DiagramEditor.Programs.Printf

/-! The conditions of `test`: about texts, numbers and files, joined by negation, conjunction
and disjunction. -/
namespace DiagramEditor.Tools

namespace Test

inductive Operator where
  | unary | binary | negation | conjunction | disjunction | opening | closing
deriving DecidableEq, Repr

def operator? (word : Raw) : Option Operator :=
  let name := String.ofList word
  if ["-r", "-w", "-x", "-e", "-f", "-d", "-c", "-b", "-p", "-u", "-g", "-k", "-s", "-t", "-z",
      "-n", "-h", "-O", "-G", "-L", "-S"].contains name then some .unary
  else if ["=", "!=", "<", ">", "-eq", "-ne", "-ge", "-gt", "-le", "-lt", "-nt", "-ot",
      "-ef"].contains name then some .binary
  else
    match name with
    | "!" => some .negation
    | "-a" => some .conjunction
    | "-o" => some .disjunction
    | "(" => some .opening
    | ")" => some .closing
    | _ => none

/-- What the first word stands for; none if it is an operand. An operator with nothing to
work on is an operand itself. -/
def leading? (words : List Raw) : Option Operator :=
  match words with
  | [] => none
  | word :: rest =>
    match operator? word with
    | some .unary =>
      match rest with
      | [] => none
      | next :: behind =>
        if operator? next = some .binary && !behind.isEmpty then none else some .unary
    | some .opening => if rest.isEmpty then none else some .opening
    | found? => found?

abbrev Reading := Except String (Bool × List Raw)

def number (word : Raw) : Except String Int :=
  let blank (c : Char) : Bool := c = ' ' || ('\t' ≤ c && c ≤ '\x0d')
  let body := ((word.dropWhile blank).reverse.dropWhile blank).reverse
  let digits := if body.head? = some '-' || body.head? = some '+' then body.tail else body
  if digits.isEmpty || !digits.all Char.isDigit then .error s!"Illegal number: {word.readable}"
  else
    let value : Int := Printf.digitsValue 10 digits
    .ok (if body.head? = some '-' then -value else value)

def aboutFile (files : FileSystem) (operator operand : Raw) : Bool :=
  let path := operand.readable
  let isDevice := isDevice operand
  match String.ofList operator with
  | "-z" => operand.isEmpty
  | "-n" => !operand.isEmpty
  | "-d" => files.isDirectory path
  | "-f" => files.pathExists path && !files.isDirectory path && !isDevice
  | "-s" =>
    match files.stat path with
    | .ok (.file content) => !content.isEmpty
    | .ok .directory => true
    | .error _ => false
  | "-e" | "-r" | "-w" => files.pathExists path || isDevice
  | "-x" => files.isDirectory path || isProgram files path
  | "-c" => isDevice
  | _ => false

def compare (left operator right : Raw) : Except String Bool := do
  match String.ofList operator with
  | "=" => return left = right
  | "!=" => return left ≠ right
  | "<" => return comesBefore left right
  | ">" => return comesBefore right left
  | "-eq" => return (← number left) = (← number right)
  | "-ne" => return (← number left) ≠ (← number right)
  | "-lt" => return (← number left) < (← number right)
  | "-le" => return (← number left) ≤ (← number right)
  | "-gt" => return (← number right) < (← number left)
  | "-ge" => return (← number right) ≤ (← number left)
  | _ => return false
where
  comesBefore : Raw → Raw → Bool
    | _, [] => false
    | [], _ :: _ => true
    | a :: left, b :: right => a < b || (a = b && comesBefore left right)

mutual

def disjunction (files : FileSystem) : (fuel : Nat) → List Raw → Reading
  | 0, words => .ok (false, words)
  | fuel + 1, words => do
    let (left, behind) ← conjunction files fuel words
    if leading? behind = some .disjunction then
      let (right, last) ← disjunction files fuel behind.tail
      return (left || right, last)
    else return (left, behind)

def conjunction (files : FileSystem) : (fuel : Nat) → List Raw → Reading
  | 0, words => .ok (false, words)
  | fuel + 1, words => do
    let (left, behind) ← negation files fuel words
    if leading? behind = some .conjunction then
      let (right, last) ← conjunction files fuel behind.tail
      return (left && right, last)
    else return (left, behind)

def negation (files : FileSystem) : (fuel : Nat) → List Raw → Reading
  | 0, words => .ok (false, words)
  | fuel + 1, words => do
    if leading? words = some .negation && !words.tail.isEmpty then
      let (holds, behind) ← negation files fuel words.tail
      return (!holds, behind)
    else primary files fuel words

def primary (files : FileSystem) : (fuel : Nat) → List Raw → Reading
  | 0, words => .ok (false, words)
  | fuel + 1, words => do
    match leading? words, words with
    | _, [] => return (false, [])
    | some .opening, _ :: rest =>
      let (holds, behind) ← disjunction files fuel rest
      match behind with
      | [')'] :: last => return (holds, last)
      | _ => .error "closing paren expected"
    | some .unary, operator :: operand :: rest => return (aboutFile files operator operand, rest)
    | _, [word] => return (!word.isEmpty, [])
    | _, left :: operator :: rest =>
      if operator? operator = some .binary then
        match rest with
        | right :: behind => return (← compare left operator right, behind)
        | [] => .error s!"{operator.readable}: argument expected"
      else return (!left.isEmpty, operator :: rest)

end

/-- Whether a condition holds; or what is wrong with it. Where words are left over, the last
one that was understood is named. -/
def holds (files : FileSystem) (words : List Raw) : Except String Bool :=
  let fuel := 4 * words.length + 8
  let whole (words : List Raw) : Except String Bool := do
    let (holds, behind) ← disjunction files fuel words
    if behind.isEmpty then return holds
    else
      let last := (words[words.length - behind.length - 1]?).getD []
      .error s!"{last.readable}: unexpected operator"
  match words with
  | [] => .ok false
  | [left, operator, right] =>
    if operator? operator = some .binary then compare left operator right else whole words
  | _ => whole words

end Test
end DiagramEditor.Tools

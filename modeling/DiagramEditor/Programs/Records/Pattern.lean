import DiagramEditor.Programs.Printf.Escape
import DiagramEditor.Programs.Regex

/-! The regular expressions of scripts over records: extended ones in which a backslash stands
before a character without its meaning, a letter for a control character, or the digits of
a byte, also between brackets. -/
namespace DiagramEditor.Records

inductive PatternFault where
  | missingOperand
  | unclosedGroup
  | badSet
  | repeatedStart
  | badInterval
deriving DecidableEq, Repr

def PatternFault.message : PatternFault → String
  | missingOperand => "missing operand"
  | unclosedGroup => "missing ')'"
  | badSet => "bad class -- [], [^] or ["
  | repeatedStart => "syntax error ^* or ^+"
  | badInterval => "bad interval expression"

/-- The character that a backslash and what stands behind it are, and the rest. The backslash is
behind us; none if it has no meaning there. -/
def unescape? (raw : Raw) : Option (Char × Raw) :=
  match raw with
  | c :: _ =>
    let known : Printf.Escapes := { hex := true }
    if "abfnrtv01234567x".toList.contains c then
      match Printf.escape known raw with
      | .ok ([found], rest) => some (found, rest)
      | _ => none
    else none
  | [] => none

namespace Pattern

/-- The characters of an expression; those behind a backslash are quoted. -/
def glyphs : (fuel : Nat) → Raw → List Glyph
  | 0, _ | _, [] => []
  | fuel + 1, '\\' :: rest =>
    match unescape? rest, rest with
    | some (c, behind), _ => ⟨c, true⟩ :: glyphs fuel behind
    | none, c :: behind => ⟨c, true⟩ :: glyphs fuel behind
    | none, [] => [⟨'\\', true⟩]
  | fuel + 1, c :: rest => ⟨c, false⟩ :: glyphs fuel rest

/-- A sign of an expression. -/
def sign (c : Char) : Glyph := ⟨c, false⟩

/-- The least and the greatest count between braces, and what stands behind them. The opening
brace is behind us. -/
def counts? (rest : List Glyph) : Option (Nat × Option Nat × List Glyph) :=
  let isDigit (glyph : Glyph) : Bool := !glyph.quoted && glyph.char.isDigit
  let number (digits : List Glyph) : Nat := Printf.digitsValue 10 (digits.map (·.char))
  let least := rest.takeWhile isDigit
  match rest.dropWhile isDigit with
  | ⟨'\x7d', false⟩ :: behind =>
    if least.isEmpty then none else some (number least, some (number least), behind)
  | ⟨',', false⟩ :: more =>
    let most := more.takeWhile isDigit
    match more.dropWhile isDigit with
    | ⟨'\x7d', false⟩ :: behind =>
      some (number least, if most.isEmpty then none else some (number most), behind)
    | _ => none
  | _ => none

/-- Reads the repetitions behind an expression. -/
def repetitions : (fuel : Nat) → Regex → List Glyph → Except PatternFault (Regex × List Glyph)
  | 0, regex, glyphs => .ok (regex, glyphs)
  | fuel + 1, regex, glyphs =>
    let isStart : Bool := regex matches .textStart
    match glyphs with
    | ⟨'*', false⟩ :: rest =>
      if isStart then .error .repeatedStart else repetitions fuel (.repeated 0 none regex) rest
    | ⟨'+', false⟩ :: rest =>
      if isStart then .error .repeatedStart else repetitions fuel (.repeated 1 none regex) rest
    | ⟨'?', false⟩ :: rest => repetitions fuel (.repeated 0 (some 1) regex) rest
    | ⟨'\x7b', false⟩ :: rest =>
      match counts? rest with
      | some (least, most?, behind) =>
        if most?.any (· < least) then .error .badInterval
        else repetitions fuel (.repeated least most? regex) behind
      | none => .ok (regex, glyphs)
    | _ => .ok (regex, glyphs)

mutual

/-- Reads alternatives; inside a group they end before its parenthesis. -/
def alternatives (inGroup : Bool) : (fuel : Nat) → List Glyph →
    Except PatternFault (Regex × List Glyph)
  | 0, glyphs => .ok (.empty, glyphs)
  | fuel + 1, glyphs => do
    let (first, behind) ← row inGroup fuel glyphs
    match behind with
    | ⟨'|', false⟩ :: rest =>
      let (second, last) ← alternatives inGroup fuel rest
      return (.either first second, last)
    | _ => return (first, behind)

/-- Reads one expression or more. -/
def row (inGroup : Bool) : (fuel : Nat) → List Glyph → Except PatternFault (Regex × List Glyph)
  | 0, glyphs => .ok (.empty, glyphs)
  | fuel + 1, glyphs => do
    let (atom, behind) ← atom inGroup fuel glyphs
    let (first, behind) ← repetitions fuel atom behind
    let ends : Bool := match behind with
      | [] | ⟨'|', false⟩ :: _ => true
      | ⟨')', false⟩ :: _ => inGroup
      | _ => false
    if ends then return (first, behind)
    else
      let (more, last) ← row inGroup fuel behind
      return (.both first more, last)

/-- Reads a character, a set, a group or an anchor. -/
def atom (inGroup : Bool) : (fuel : Nat) → List Glyph → Except PatternFault (Regex × List Glyph)
  | 0, glyphs => .ok (.empty, glyphs)
  | fuel + 1, glyphs =>
    match glyphs with
    | [] | ⟨'|', false⟩ :: _ | ⟨'*', false⟩ :: _ | ⟨'+', false⟩ :: _ | ⟨'?', false⟩ :: _ =>
      .error .missingOperand
    | ⟨'(', false⟩ :: rest =>
      match alternatives true fuel rest with
      | .ok (regex, ⟨')', false⟩ :: behind) => .ok (regex, behind)
      | .ok _ => .error .unclosedGroup
      | .error .missingOperand =>
        .error (if rest.isEmpty then .unclosedGroup else .missingOperand)
      | .error fault => .error fault
    | ⟨')', false⟩ :: rest =>
      if inGroup then .error .missingOperand else .ok (.one (.single ')'), rest)
    | ⟨'[', false⟩ :: rest =>
      match CharacterSet.ofBracket? ['^'] rest with
      | some (set, behind) => .ok (.one set, behind)
      | none => .error .badSet
    | ⟨'.', false⟩ :: rest => .ok (.one (.except []), rest)
    | ⟨'^', false⟩ :: rest => .ok (.textStart, rest)
    | ⟨'$', false⟩ :: rest => .ok (.textEnd, rest)
    | ⟨c, _⟩ :: rest => .ok (.one (.single c), rest)

end

/-- Reads an expression. The empty one is found everywhere. -/
def compile (raw : Raw) : Except PatternFault Regex :=
  let all := glyphs (raw.length + 1) raw
  if all.isEmpty then .ok .empty
  else (alternatives false (4 * all.length + 4) all).map (·.1)

end Pattern
end DiagramEditor.Records

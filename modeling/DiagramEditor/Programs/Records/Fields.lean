import DiagramEditor.Programs.Records.Pattern
import DiagramEditor.Text.Split

/-! Cutting a record into fields. -/
namespace DiagramEditor.Records

/-- What stands between parts of a text. -/
inductive Separator where
  | blanks
  | nothing
  | char (c : Char)
  | regex (regex : Regex)

namespace Separator

/-- The separator that a text stands for. A single character stands for itself. -/
def ofRaw (raw : Raw) : Except PatternFault Separator :=
  match raw with
  | [' '] => .ok .blanks
  | [] => .ok .nothing
  | [c] => .ok (.char c)
  | _ => (Pattern.compile raw).map .regex

def isBlank (c : Char) : Bool := c = ' ' || c = '\t' || c = '\n'

/-- The parts between the places where an expression is found with something in it. -/
def cutAt (regex : Regex) (text : Raw) : List Raw :=
  go (text.length + 1) 0 0 []
where
  /-- The parts from `start` on; up to `place` nothing has been found. -/
  go : Nat → (start place : Nat) → List Raw → List Raw
    | 0, _, _, parts => parts.reverse
    | fuel + 1, start, place, parts =>
      match regex.search? text place with
      | some found =>
        if found.length = 0 then
          if text.length ≤ found.start then (text.drop start :: parts).reverse
          else go fuel start (found.start + 1) parts
        else
          let next := found.start + found.length
          go fuel next next ((text.drop start).take (found.start - start) :: parts)
      | none => (text.drop start :: parts).reverse

/-- The parts of a text. The empty text has none. -/
def split (separator : Separator) (text : Raw) : List Raw :=
  if text.isEmpty then []
  else
    match separator with
    | .blanks =>
      (text.splitBy fun a b => isBlank a = isBlank b).filter fun part =>
        !(part.head?.any isBlank)
    | .nothing => text.map ([·])
    | .char c => Text.split c text
    | .regex pattern => cutAt pattern text

end Separator

end DiagramEditor.Records

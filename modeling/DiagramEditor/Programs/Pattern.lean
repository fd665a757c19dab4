import DiagramEditor.Programs.CharacterSet

/-! Patterns for whole texts: a star stands for any text, a question mark for one character,
brackets for one character of a set. What is quoted stands for itself. -/
namespace DiagramEditor

namespace Pattern

inductive Item where
  | one (set : CharacterSet)
  | many
deriving DecidableEq, Repr

end Pattern

abbrev Pattern := List Pattern.Item

namespace Pattern

/-- Whether a character of a pattern may stand for others. -/
def isSpecial (glyph : Glyph) : Bool := !glyph.quoted && ['*', '?', '['].contains glyph.char

/-- Reads a pattern. A bracket without its partner stands for itself. -/
def ofGlyphs (glyphs : List Glyph) : Pattern :=
  go (glyphs.length + 1) glyphs
where
  go : Nat → List Glyph → Pattern
    | 0, _ => []
    | _, [] => []
    | fuel + 1, glyph :: rest =>
      if !isSpecial glyph then .one (.single glyph.char) :: go fuel rest
      else if glyph.char = '*' then .many :: go fuel rest
      else if glyph.char = '?' then .one (.except []) :: go fuel rest
      else
        match CharacterSet.ofBracket? ['!', '^'] rest with
        | some (set, behind) => .one set :: go fuel behind
        | none => .one (.single '[') :: go fuel rest

/-- Whether the pattern stands for the whole text. -/
def isMatch : Pattern → Raw → Bool
  | [], text => text.isEmpty
  | .many :: items, text => (List.range (text.length + 1)).any fun n => isMatch items (text.drop n)
  | .one set :: items, c :: text => set.contains c && isMatch items text
  | .one _ :: _, [] => false

/-- The text without the start that the pattern stands for, the shortest or the longest. -/
def dropStart (pattern : Pattern) (longest : Bool) (text : Raw) : Raw :=
  let lengths := List.range (text.length + 1)
  match (if longest then lengths.reverse else lengths).find? fun n =>
      pattern.isMatch (text.take n) with
  | some n => text.drop n
  | none => text

/-- The text without the end that the pattern stands for, the shortest or the longest. -/
def dropEnd (pattern : Pattern) (longest : Bool) (text : Raw) : Raw :=
  let lengths := List.range (text.length + 1)
  match (if longest then lengths else lengths.reverse).find? fun n =>
      pattern.isMatch (text.drop n) with
  | some n => text.take n
  | none => text

end Pattern
end DiagramEditor

import DiagramEditor.Programs.Raw

/-! Sets of characters as they stand between brackets in patterns: single characters, ranges,
and classes with a name. Only ASCII characters belong to a class. -/
namespace DiagramEditor

/-- A character of a pattern. A quoted one stands for itself alone. -/
structure Glyph where
  char : Char
  quoted : Bool := false
deriving DecidableEq, Repr

/-- Whether a character belongs to the class of a name. -/
def inCharacterClass (name : String) (c : Char) : Bool :=
  match name with
  | "alpha" => c.isAlpha
  | "digit" => c.isDigit
  | "alnum" => c.isAlphanum
  | "upper" => c.isUpper
  | "lower" => c.isLower
  | "space" => c = ' ' || ('\t' ≤ c && c ≤ '\x0d')
  | "blank" => c = ' ' || c = '\t'
  | "cntrl" => c < ' ' || c = '\x7f'
  | "print" => ' ' ≤ c && c ≤ '~'
  | "graph" => '!' ≤ c && c ≤ '~'
  | "punct" => '!' ≤ c && c ≤ '~' && !c.isAlphanum
  | "xdigit" => c.isDigit || ('a' ≤ c.toLower && c.toLower ≤ 'f')
  | _ => false

namespace CharacterSet

inductive Member where
  | range (low high : Char)
  | named (name : String)
deriving DecidableEq, Repr

def Member.contains (member : Member) (c : Char) : Bool :=
  match member with
  | .range low high => low ≤ c && c ≤ high
  | .named name => inCharacterClass name c

end CharacterSet

structure CharacterSet where
  negated : Bool := false
  members : List CharacterSet.Member := []
deriving DecidableEq, Repr

namespace CharacterSet

def contains (set : CharacterSet) (c : Char) : Bool :=
  set.members.any (·.contains c) != set.negated

def single (c : Char) : CharacterSet := { members := [.range c c] }

/-- Every character but those given. -/
def except (others : List Char) : CharacterSet :=
  { negated := true, members := others.map fun c => .range c c }

/-- The name of a class and what stands behind it. The opening bracket and colon are
behind us. -/
def className? (glyphs : List Glyph) : Option (String × List Glyph) :=
  let name := glyphs.takeWhile (·.char.isLower)
  match glyphs.drop name.length with
  | ⟨':', _⟩ :: ⟨']', _⟩ :: rest => some (String.ofList (name.map (·.char)), rest)
  | _ => none

/-- Reads the members up to the closing bracket, which stands for itself where it comes
first. -/
def members? : (fuel : Nat) → (first : Bool) → List Glyph → Option (List Member × List Glyph)
  | 0, _, _ => none
  | _, _, [] => none
  | fuel + 1, first, glyph :: rest =>
    let single : Option (List Member × List Glyph) :=
      match rest with
      | ⟨'-', false⟩ :: high :: behind =>
        if high = ⟨']', false⟩ then
          (members? fuel false rest).map fun (more, last) =>
            (.range glyph.char glyph.char :: more, last)
        else
          (members? fuel false behind).map fun (more, last) =>
            (.range glyph.char high.char :: more, last)
      | _ =>
        (members? fuel false rest).map fun (more, last) =>
          (.range glyph.char glyph.char :: more, last)
    if glyph = ⟨']', false⟩ && !first then some ([], rest)
    else if glyph = ⟨'[', false⟩ && rest.head? = some ⟨':', false⟩ then
      match className? rest.tail with
      | some (name, behind) =>
        (members? fuel false behind).map fun (more, last) => (.named name :: more, last)
      | none => single
    else single

/-- Reads a set up to its closing bracket; `signs` are the characters that negate it. The
opening bracket is behind us. -/
def ofBracket? (signs : List Char) (glyphs : List Glyph) : Option (CharacterSet × List Glyph) :=
  let negated := glyphs.head?.any fun glyph => !glyph.quoted && signs.contains glyph.char
  let body := if negated then glyphs.tail else glyphs
  (members? (body.length + 1) true body).map fun (members, rest) =>
    ({ negated := negated, members := members }, rest)

end CharacterSet
end DiagramEditor

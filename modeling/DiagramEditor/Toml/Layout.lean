import DiagramEditor.Text.Basic

/-! What separates the parts of a TOML document: blanks, comments and line ends. A line
ends with a newline, which a carriage return may precede; a carriage return alone is
not allowed anywhere. -/
namespace DiagramEditor.Toml

def isBlank (c : Char) : Bool := c = ' ' || c = '\t'

/-- A character with no place in a document but by an escape. -/
def isControl (c : Char) : Bool := (c.toNat < 0x20 && c != '\t') || c.toNat = 0x7F

def skipBlanks (rest : Text) : Text := rest.dropWhile isBlank

/-- Skips a comment. It ends before the first control character, which has to be that
of a line end. -/
def skipComment : Text → Text
  | '#' :: rest => rest.dropWhile (!isControl ·)
  | rest => rest

/-- The text behind a line end. -/
def lineEnd? : Text → Option Text
  | '\n' :: rest => some rest
  | '\r' :: '\n' :: rest => some rest
  | _ => none

/-- The text behind the rest of a line on which nothing more than a comment stands. -/
def finishLine? (rest : Text) : Option Text :=
  match skipComment (skipBlanks rest) with
  | [] => some []
  | behind => lineEnd? behind

theorem lineEnd?_length {rest behind : Text} (found : lineEnd? rest = some behind) :
    behind.length < rest.length := by
  unfold lineEnd? at found
  split at found
  · cases found
    exact Nat.lt_succ_self _
  · cases found
    exact Nat.lt_add_of_pos_right Nat.two_pos
  · cases found

theorem skipComment_length (rest : Text) : (skipComment rest).length ≤ rest.length := by
  unfold skipComment
  split
  · exact Nat.le_succ_of_le (List.dropWhile_suffix _).length_le
  · exact Nat.le_refl _

theorem skipBlanks_length (rest : Text) : (skipBlanks rest).length ≤ rest.length :=
  (List.dropWhile_suffix _).length_le

/-- Skips blanks, line ends and comments, on as many lines as there are. -/
def skipLines (rest : Text) : Text :=
  match _found : lineEnd? (skipComment (skipBlanks rest)) with
  | some behind => skipLines behind
  | none => skipComment (skipBlanks rest)
termination_by rest.length
decreasing_by
  have := lineEnd?_length _found
  have := skipComment_length (skipBlanks rest)
  have := skipBlanks_length rest
  omega

end DiagramEditor.Toml

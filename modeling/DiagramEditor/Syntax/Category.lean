/-! The classes into which a diagram source is cut. All but plain text are shown
in a colour of their own and carry a tag, which names the class in themes. -/
namespace DiagramEditor

inductive Category where
  | keyword | operator | bracket | string | identifier | number | plain
deriving DecidableEq, Repr, Inhabited

namespace Category

/-- The classes with a colour of their own, in the order in which themes list them. -/
def styled : List Category := [keyword, operator, bracket, string, identifier, number]

def isStyled : Category → Bool
  | plain => false
  | _ => true

/-- The name of a styled class in themes. Identifiers go by the name of variables. -/
def tag? : Category → Option String
  | keyword => some "keyword"
  | operator => some "operator"
  | bracket => some "bracket"
  | string => some "string"
  | identifier => some "variable"
  | number => some "number"
  | plain => none

end Category
end DiagramEditor

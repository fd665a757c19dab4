import DiagramEditor.Syntax.Token

/-! Highlighting marks the styled tokens of a source by their places in it. What
lies between two spans is plain text. -/
namespace DiagramEditor

structure HighlightSpan where
  range : ByteRange
  category : Category
deriving DecidableEq, Repr, Inhabited

def Syntax.Token.highlightSpan (token : Syntax.Token) : HighlightSpan :=
  ⟨token.span, token.category⟩

def highlight (source : Text) : List HighlightSpan :=
  ((Syntax.tokenize source).filter (·.category.isStyled)).map (·.highlightSpan)

end DiagramEditor

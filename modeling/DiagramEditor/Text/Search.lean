import DiagramEditor.Text.Basic

/-! Looking for a text inside another one. -/
namespace DiagramEditor.Text

/-- The pattern begins somewhere in the text. The empty pattern begins everywhere. -/
def occursIn (pattern : Text) : Text → Bool
  | [] => pattern.isEmpty
  | c :: rest => pattern.isPrefixOf (c :: rest) || occursIn pattern rest

end DiagramEditor.Text

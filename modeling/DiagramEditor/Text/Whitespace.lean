import DiagramEditor.Text.Basic

/-! White space as the Unicode property `White_Space` names it, and trimming by
it. The property includes the no-break spaces and the line and paragraph
separators, so a core character class would be too small. -/
namespace DiagramEditor

/-- The code points of the property `White_Space`, as inclusive ranges. -/
def whitespaceRanges : List (Nat × Nat) :=
  [(0x09, 0x0D), (0x20, 0x20), (0x85, 0x85), (0xA0, 0xA0), (0x1680, 0x1680), (0x2000, 0x200A),
   (0x2028, 0x2029), (0x202F, 0x202F), (0x205F, 0x205F), (0x3000, 0x3000)]

def isWhitespace (c : Char) : Bool :=
  whitespaceRanges.any fun (low, high) => low ≤ c.toNat && c.toNat ≤ high

namespace Text

def trimStart (text : Text) : Text := text.dropWhile isWhitespace

def trimEnd (text : Text) : Text := (text.reverse.dropWhile isWhitespace).reverse

/-- The text without the white space at its two ends. -/
def trim (text : Text) : Text := text.trimStart.trimEnd

end Text
end DiagramEditor

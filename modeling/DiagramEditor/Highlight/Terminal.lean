import DiagramEditor.Highlight.Theme
import DiagramEditor.Syntax.Token

/-! Coloured output for terminals. A styled token is written between the sequence
that sets the foreground to its colour and the one that resets it; a plain token is
written as it is. -/
namespace DiagramEditor.Terminal

def escapeChar : Char := '\x1b'

/-- A number in decimal digits. -/
def decimal (n : Nat) : Text := Nat.toDigits 10 n

def setForeground (color : Rgb) : Text :=
  [escapeChar] ++ "[38;2;".toList ++ decimal color.red.toNat ++ ';' :: decimal color.green.toNat ++
    ';' :: decimal color.blue.toNat ++ ['m']

def reset : Text := [escapeChar, '[', '0', 'm']

def writeToken (theme : Theme) (token : Syntax.Token) : Text :=
  match theme.color? token.category with
  | some color => setForeground color ++ token.text ++ reset
  | none => token.text

/-- The source with its styled tokens in the theme's colours. -/
def writeHighlighted (theme : Theme) (source : Text) : Text :=
  (Syntax.tokenize source).flatMap (writeToken theme)

end DiagramEditor.Terminal

import DiagramEditor.Text.GraphemeExtend
import DiagramEditor.Text.Printable

/-! A text in double quotes, as messages show it. The quote, the backslash and the
common controls have short escapes; what has no form of its own, or would join the
character before it, is shown by its code point. The halfwidth sound marks belong to
the character before them but have a cell of their own, so they are shown as they are. -/
namespace DiagramEditor.Quoted

/-- The code point in lower-case hexadecimal digits between braces. -/
def codePointEscape (c : Char) : List Char :=
  ['\\', 'u', '\x7b'] ++ Nat.toDigits 16 c.toNat ++ ['\x7d']

/-- A character that merges with the one before it. -/
def joinsPrevious (c : Char) : Bool :=
  Unicode.isGraphemeExtend c && !(c = '\uFF9E' || c = '\uFF9F')

def escape (c : Char) : List Char :=
  match c with
  | '"' => ['\\', '"']
  | '\\' => ['\\', '\\']
  | '\n' => ['\\', 'n']
  | '\r' => ['\\', 'r']
  | '\t' => ['\\', 't']
  | '\x00' => ['\\', '0']
  | c =>
    if joinsPrevious c || !Unicode.isPrintable c then codePointEscape c else [c]

/-- The text between double quotes. -/
def encode (text : String) : String :=
  String.ofList ('"' :: text.toList.flatMap escape ++ ['"'])

end DiagramEditor.Quoted

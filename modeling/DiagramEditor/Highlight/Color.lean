import DiagramEditor.Text.Hex
import DiagramEditor.Text.Quoted

/-! Colours of eight bits a channel. They are written as a hash sign and six
hexadecimal digits. Reading takes letters of either case, and each pair of digits
as a number of its own, which may carry a plus sign in place of a leading zero. -/
namespace DiagramEditor

structure Rgb where
  red : UInt8
  green : UInt8
  blue : UInt8
deriving DecidableEq, Repr, Inhabited

/-- Why a text is no colour: its shape is wrong, or one of its pairs is no number. -/
inductive ColorError where
  | badFormat (text : String)
  | badHex (text : String)
deriving DecidableEq, Repr

def ColorError.message : ColorError → String
  | badFormat text => "Colour must look like #RRGGBB, got " ++ Quoted.encode text
  | badHex text => "Invalid hex digits in colour " ++ Quoted.encode text

namespace Rgb

/-- A channel from its two characters. -/
def channel? (first second : Char) : Option UInt8 :=
  if first = '+' then (hexDigitValue? second).map UInt8.ofNat
  else
    (hexDigitValue? first).bind fun high =>
      (hexDigitValue? second).map fun low => UInt8.ofNat (16 * high + low)

/-- The six characters behind the hash sign, if the text has that shape. -/
def digits? (text : String) : Option (List Char) :=
  match text.toList with
  | '#' :: digits =>
    if digits.length = 6 ∧ digits.all (·.toNat < 128) then some digits else none
  | _ => none

def parse (text : String) : Except ColorError Rgb :=
  match digits? text with
  | some [a, b, c, d, e, f] =>
    match channel? a b, channel? c d, channel? e f with
    | some red, some green, some blue => .ok ⟨red, green, blue⟩
    | _, _, _ => .error (.badHex text)
  | _ => .error (.badFormat text)

/-- The two upper-case digits of a channel. -/
def channelDigits (value : UInt8) : List Char :=
  [upperHexDigit (value.toNat / 16), upperHexDigit (value.toNat % 16)]

def toString (color : Rgb) : String :=
  String.ofList
    ('#' :: (channelDigits color.red ++ channelDigits color.green ++ channelDigits color.blue))

instance : ToString Rgb := ⟨toString⟩

end Rgb
end DiagramEditor

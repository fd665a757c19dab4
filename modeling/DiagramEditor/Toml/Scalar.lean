import DiagramEditor.Text.Hex
import DiagramEditor.Text.Split
import DiagramEditor.Toml.DateTime
import DiagramEditor.Toml.Decimal
import DiagramEditor.Toml.Value

/-! Values of TOML without quotes: booleans, integers, floats, dates and times. Underscores
may group digits. A decimal number has no leading zeros; the other bases take a letter
after the zero, and no sign. Some texts are taken for a number by their looks and turn
out to have no value only when that is asked for: an integer of more than 128 bits, a
float that overflows, a base letter without digits, or an underscore before something
that is a digit in another base only. -/
namespace DiagramEditor.Toml.Scalar

/-- A character that ends a value without quotes. -/
def isTerminator (c : Char) : Bool :=
  [' ', '\t', '\n', '\r', '#', ',', '=', '[', ']', '\x7b', '\x7d'].contains c

/-- The text without its underscores. Each has to stand between two digits, so none opens or
ends the text, follows another one or the sign of the number. -/
def ungroup? (isDigit : Char → Bool) (raw : Text) : Option Text :=
  match raw.split '_' with
  | [whole] => some whole
  | groups =>
    if groups.all (!·.isEmpty) && groups.tail.all (·.head?.any isDigit) &&
        groups.dropLast.all (·.getLast?.any isDigit) then
      some groups.flatten
    else none

def isHexDigit (c : Char) : Bool := (hexDigitValue? c).isSome

def naturalOf (base : Nat) (digits : Text) : Nat :=
  digits.foldl (fun value c => value * base + (hexDigitValue? c).getD 0) 0

/-- An integer as far as it fits into 128 bits, with or without a sign. -/
def integer (value : Int) : Value :=
  if -0x80000000000000000000000000000000 ≤ value ∧
      value ≤ 0xFFFFFFFFFFFFFFFFFFFFFFFFFFFFFFFF then .integer value
  else .valueless

/-- A number in another base than ten, behind its prefix. -/
def based? (base : Nat) (isDigit : Char → Bool) (raw : Text) : Option Value :=
  if raw.all fun c => isDigit c || c = '_' then
    (ungroup? isDigit raw).map fun digits =>
      if digits.isEmpty then .valueless else integer (naturalOf base digits)
  else none

/-- The value of the text of a decimal integer without underscores. -/
def decimalInteger (negative : Bool) (digits : Text) : Value :=
  if digits.isEmpty || !digits.all Char.isDigit then .valueless
  else
    let value : Int := naturalOf 10 digits
    integer (if negative then -value else value)

def isSign (c : Char) : Bool := c = '+' || c = '-'

def dropSign (raw : Text) : Text := if raw.head?.any isSign then raw.tail else raw

/-- A zero that more digits or an underscore follow. -/
def hasLeadingZero (body : Text) : Bool :=
  match body with
  | '0' :: c :: _ => c.isDigit || c = '_'
  | _ => false

/-- A decimal integer, with its sign if it has one. -/
def integer? (raw : Text) : Option Value :=
  if hasLeadingZero (dropSign raw) then none
  else
    (ungroup? isHexDigit raw).map fun text => decimalInteger (text.head? = some '-') (dropSign text)

/-- A float, with its sign if it has one. -/
def float? (raw : Text) : Option Value := do
  let number ← Decimal.read? (dropSign (← ungroup? Char.isDigit raw))
  if hasLeadingZero (dropSign raw) then none
  else if number.isFinite then some .float else some .valueless

/-- A decimal number, a date or a time. What follows the first digits decides. -/
def number? (raw : Text) : Option Value :=
  let behind := (dropSign raw).dropWhile Char.isDigit
  match behind with
  | [] => if (dropSign raw).isEmpty then none else integer? raw
  | c :: _ =>
    if c = '-' || c = ':' then if DateTime.isValid raw then some .dateTime else none
    else if behind.any ['.', 'e', 'E'].contains then float? raw
    else if c = '_' then integer? raw
    else none

/-- The value that a whole run of characters stands for. -/
def value? (raw : Text) : Option Value :=
  if raw = "true".toList then some (.boolean true)
  else if raw = "false".toList then some (.boolean false)
  else if dropSign raw = "inf".toList || dropSign raw = "nan".toList then some .float
  else
    match raw with
    | '0' :: 'x' :: rest => based? 16 isHexDigit rest
    | '0' :: 'o' :: rest => based? 8 (fun c => '0' ≤ c && c ≤ '7') rest
    | '0' :: 'b' :: rest => based? 2 (fun c => c = '0' || c = '1') rest
    | _ => number? raw

/-- Reads the run of characters at the start of a text. A date takes one blank and the
time behind it along. -/
def read? (rest : Text) : Option (Value × Text) :=
  let isInside (c : Char) : Bool := !isTerminator c
  let raw := rest.takeWhile isInside
  let behind := rest.dropWhile isInside
  match behind with
  | ' ' :: c :: more =>
    if DateTime.isDate raw && c.isDigit then
      (value? (raw ++ ' ' :: (c :: more).takeWhile isInside)).map
        (·, (c :: more).dropWhile isInside)
    else (value? raw).map (·, behind)
  | _ => (value? raw).map (·, behind)

end DiagramEditor.Toml.Scalar

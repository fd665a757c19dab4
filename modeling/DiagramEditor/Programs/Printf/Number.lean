import DiagramEditor.Programs.Printf.Escape

/-! Whole numbers in arguments: decimal, octal behind a zero or hexadecimal behind `0x`. A word
of 64 bits holds them, with or without a sign. -/
namespace DiagramEditor.Printf

/-- The number at the start of a text, and what follows it: decimal, octal or hexadecimal. -/
def magnitude (raw : Raw) : Nat × Raw :=
  let hex (digits : Raw) := digits.takeWhile isHexDigit
  match raw with
  | '0' :: c :: rest =>
    if (c = 'x' || c = 'X') && !(hex rest).isEmpty then
      (digitsValue 16 (hex rest), rest.drop (hex rest).length)
    else
      let digits := (c :: rest).takeWhile isOctalDigit
      (digitsValue 8 digits, (c :: rest).drop digits.length)
  | _ => (digitsValue 10 (raw.takeWhile Char.isDigit), raw.dropWhile Char.isDigit)

def isBlank (c : Char) : Bool := [' ', '\t', '\n', '\x0b', '\x0c', '\r'].contains c

/-- Whether a text starts with a minus, and what follows its sign. -/
def splitSign (raw : Raw) : Bool × Raw :=
  match raw with
  | '-' :: rest => (true, rest)
  | '+' :: rest => (false, rest)
  | rest => (false, rest)

/-- The number at the start of an argument, and what of it was not understood: all of it
if there is no digit. -/
def integer (argument : Raw) : Int × Raw :=
  let (negative, digits) := splitSign (argument.dropWhile isBlank)
  let (value, rest) := magnitude digits
  if rest.length = digits.length then (0, argument)
  else (if negative then -(value : Int) else value, rest)

/-- Words of 64 bits. -/
inductive Word where
  | signed
  | unsigned
deriving DecidableEq, Repr

/-- The number of the values of a word. -/
def wordRange : Nat := 0x10000000000000000

/-- The number of the values of a word that are not negative if it has a sign. -/
def halfWordRange : Nat := 0x8000000000000000

/-- Whether a word stands for a number; one without a sign also stands for its complement. -/
def Word.holds (word : Word) (value : Int) : Bool :=
  match word with
  | signed => -halfWordRange ≤ value && value < halfWordRange
  | unsigned => value.natAbs < wordRange

/-- What a word makes of a number: the nearest one that it holds, and the complement of a
negative one if it has no sign. -/
def Word.ofInt (word : Word) (value : Int) : Int :=
  match word with
  | signed => max (-halfWordRange) (min (halfWordRange - 1) value)
  | unsigned => if word.holds value then value % wordRange else wordRange - 1

end DiagramEditor.Printf

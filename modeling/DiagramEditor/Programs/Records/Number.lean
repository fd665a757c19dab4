import DiagramEditor.Programs.Printf.Floating

/-! The numbers that scripts over records calculate with: binary floating-point numbers of 64
bits. Their texts are exact, and a whole number that fits into a word is written with all its
digits. -/
namespace DiagramEditor.Records

open Printf

/-- A number. What is no number has a sign all the same, which its text shows. -/
inductive Number where
  | real (value : Float)
  | undefined (negative : Bool)
deriving Inhabited

namespace Number

/-- The result of a calculation. -/
def ofFloat (value : Float) : Number := if value.isNaN then .undefined true else .real value

def ofInt (value : Int) : Number := .real (Float.ofInt value)

def ofNat (value : Nat) : Number := .real (Float.ofNat value)

def zero : Number := .real 0

def one : Number := .real 1

/-- The number that a quotient of a format of 64 bits stands for. -/
def ofFloating (negative : Bool) : Floating → Number
  | .finite numerator denominator =>
    let magnitude := (Float.ofNat numerator).scaleB (-(denominator.log2 : Int))
    .real (if negative then -magnitude else magnitude)
  | .infinite => .real (if negative then -(1 / 0) else 1 / 0)
  | .notNumber => .undefined negative

/-- Whether a number is negative, and its magnitude as a quotient. -/
def parts : Number → Bool × Floating
  | .undefined negative => (negative, .notNumber)
  | .real value =>
    let bits := value.toBits.toNat
    let fraction := bits % 0x10000000000000
    let exponent := bits / 0x10000000000000 % 0x800
    let magnitude : Floating :=
      if exponent = 0x7FF then .infinite
      else
        let significand := if exponent = 0 then fraction else fraction + 0x10000000000000
        let (numerator, denominator) := scale 2 ((max exponent 1 : Int) - 1075) (significand, 1)
        .finite numerator denominator
    (0x8000000000000000 ≤ bits, magnitude)

/-- The whole part of a number, if it is finite. -/
def whole? (number : Number) : Option Int :=
  match number.parts with
  | (negative, .finite numerator denominator) =>
    let magnitude : Int := (numerator / denominator : Nat)
    some (if negative then -magnitude else magnitude)
  | _ => none

/-- Whether a number is whole. -/
def isWhole (number : Number) : Bool :=
  match number.parts with
  | (_, .finite numerator denominator) => numerator % denominator = 0
  | _ => false

/-- The number as a word with a sign. Too great a number becomes the last one, and one that is
too small the last one with a minus. -/
def toWord (number : Number) : Int :=
  match number.parts, number.whole? with
  | _, some value =>
    if value < -halfWordRange then 1 - halfWordRange else min value (halfWordRange - 1)
  | (negative, .infinite), none => if negative then 1 - halfWordRange else halfWordRange - 1
  | _, none => -halfWordRange

/-- The lower half of the number as a word. -/
def toHalfWord (number : Number) : Int := Int.bmod number.toWord 0x100000000

/-- The number as a word, which has no sign where the number is too great for one that has. -/
def toEitherWord (number : Number) : Int :=
  match number.parts, number.whole? with
  | _, some value =>
    if (halfWordRange : Int) ≤ value then min value (wordRange - 1) else number.toWord
  | (false, .infinite), none => wordRange - 1
  | _, none => number.toWord

/-- The digits of a whole number that fits into a word. -/
def wholeText? (number : Number) : Option Raw :=
  if number.isWhole then
    number.whole?.bind fun value =>
      if -(halfWordRange : Int) ≤ value && value ≤ wordRange then
        some (toString (min value (wordRange - 1))).toList
      else none
  else none

def isZero : Number → Bool
  | .real value => value == 0
  | .undefined _ => false

/-- The number at the start of a text, whether it is out of range, and what follows it. Where
there is none, all of the text follows. -/
def read (raw : Raw) : Number × Bool × Raw :=
  let (negative, digits) := splitSign (raw.dropWhile isBlank)
  match Binary.double.read? digits with
  | some (value, range, rest) => (ofFloating negative value, range, rest)
  | none => (zero, false, raw)

/-- The number at the start of a text, or zero. -/
def ofRaw (raw : Raw) : Number := (read raw).1

/-- The number that a text from an input is, if it is one from its first to its last character,
blanks around it aside. -/
def ofInput? (raw : Raw) : Option Number :=
  let isSpace (c : Char) : Bool := c = ' ' || c = '\t'
  let text := ((raw.dropWhile isSpace).reverse.dropWhile isSpace).reverse
  let opens (c : Char) : Bool := c.isDigit || c = '+' || c = '-' || c = '.'
  let closes (c : Char) : Bool := c.isDigit || c = '.'
  if text.head?.any opens && text.getLast?.any closes then
    match read text with
    | (number, false, []) => some number
    | _ => none
  else none

/-- Combines two numbers. What is no number stays what it is. -/
def combine (operation : Float → Float → Float) : Number → Number → Number
  | .undefined negative, _ => .undefined negative
  | _, .undefined negative => .undefined negative
  | .real left, .real right => ofFloat (operation left right)

/-- What is left of a division whose quotient is cut to a whole number. -/
def remainder (left right : Number) : Number :=
  match left.parts, right.parts with
  | (_, .notNumber), _ => left
  | _, (_, .notNumber) => right
  | (_, .infinite), _ => .undefined true
  | (negative, .finite a b), (_, .finite c d) =>
    if c = 0 then .undefined true
    else ofFloating negative (Binary.double.round (a * d % (c * b), b * d)).1
  | (_, .finite _ _), (_, .infinite) => left

def apply (operation : Float → Float) : Number → Number
  | .undefined negative => .undefined negative
  | .real value => ofFloat (operation value)

def negated : Number → Number
  | .undefined negative => .undefined !negative
  | .real value => .real (-value)

/-- The number without its fraction. -/
def truncated : Number → Number
  | .undefined negative => .undefined negative
  | .real value => .real (if value < 0 then value.ceil else value.floor)

/-- How two numbers compare. What is no number compares as equal to all. -/
def compare : Number → Number → Ordering
  | .real left, .real right => if left < right then .lt else if right < left then .gt else .eq
  | _, _ => .eq

end Number
end DiagramEditor.Records

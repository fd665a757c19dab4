import DiagramEditor.Programs.Printf.Number

/-! Binary floating-point numbers of any precision: the nearest one to a decimal or hexadecimal
text, and its decimal digits. Both roundings are exact and send a tie to the even neighbour. -/
namespace DiagramEditor.Printf

/-- A format of numbers: how many bits a significand has, and the least power of two that is too
great. -/
structure Binary where
  bits : Nat
  limit : Nat

/-- The exponent of the smallest positive number. -/
def Binary.quantum (format : Binary) : Int := 3 - format.limit - format.bits

def Binary.double : Binary := { bits := 53, limit := 1024 }

def Binary.extended : Binary := { bits := 64, limit := 16384 }

/-- A number without a sign; a finite one is a quotient. -/
inductive Floating where
  | finite (numerator denominator : Nat)
  | infinite
  | notNumber
deriving DecidableEq, Repr

/-- The whole number next to a quotient, of two the even one. -/
def nearest (numerator denominator : Nat) : Nat :=
  let whole := numerator / denominator
  let twice := 2 * (numerator % denominator)
  if denominator < twice || (twice = denominator && whole % 2 = 1) then whole + 1 else whole

/-- The quotient times a power of a base. -/
def scale (base : Nat) (exponent : Int) (quotient : Nat × Nat) : Nat × Nat :=
  (quotient.1 * Nat.pow base exponent.toNat, quotient.2 * Nat.pow base (-exponent).toNat)

/-- The number of a format that is next to a quotient, and whether it is out of range: too
great, or so small that it is not exact. -/
def Binary.round (format : Binary) (quotient : Nat × Nat) : Floating × Bool :=
  if quotient.1 = 0 then (.finite 0 1, false)
  else
    let guess : Int := quotient.1.log2 - quotient.2.log2 - format.bits + 1
    let significant (exponent : Int) : Nat × Nat := scale 2 (-exponent) quotient
    let whole := (significant guess).1 / (significant guess).2
    let least := if whole < Nat.pow 2 (format.bits - 1) then guess - 1 else guess
    let exponent := max least format.quantum
    let (numerator, denominator) := significant exponent
    let significand := nearest numerator denominator
    let (value, one) := scale 2 exponent (significand, 1)
    if Nat.pow 2 format.limit * one ≤ value then (.infinite, true)
    else
      (.finite value one,
        least < format.quantum && significand * denominator ≠ numerator)

/-- An exponent behind one of the letters that announce it, and what follows it. Where the
exponent has no digit, neither is read. -/
def exponentAt (letters : List Char) (raw : Raw) : Int × Raw :=
  match raw with
  | c :: rest =>
    let (negative, digits) := splitSign rest
    let number : Int := digitsValue 10 (digits.takeWhile Char.isDigit)
    if letters.contains c && digits.head?.any Char.isDigit then
      (if negative then -number else number, digits.dropWhile Char.isDigit)
    else (0, raw)
  | [] => (0, [])

/-- Beyond this power of ten either way a number is out of range in every format. -/
def maxMagnitude : Int := 6000

/-- The number `digits * base ^ exponent`. Where that is out of range for sure, a number that is
less far out stands for it. -/
def quotientOf (base digits : Nat) (exponent : Int) : Nat × Nat :=
  if digits = 0 then (0, 1)
  else
    let size : Int := (Nat.toDigits base digits).length
    let bound := 5 * maxMagnitude
    scale base (max (-bound - size) (min (bound - size) exponent)) (digits, 1)

/-- Digits around a point, and what follows them. Where there is no digit, nothing is read. -/
def mantissa? (isDigit : Char → Bool) (raw : Raw) : Option (Raw × Raw × Raw) :=
  let whole := raw.takeWhile isDigit
  match raw.dropWhile isDigit with
  | '.' :: behind =>
    let fraction := behind.takeWhile isDigit
    if whole.isEmpty && fraction.isEmpty then none
    else some (whole, fraction, behind.dropWhile isDigit)
  | behind => if whole.isEmpty then none else some (whole, [], behind)

/-- The word at the start of a text, in letters of either case. -/
def startsWith (word : String) (raw : Raw) : Bool :=
  (raw.take word.length).map Char.toLower = word.toList

/-- The number without a sign at the start of a text, whether it is out of range, and what
follows it. -/
def Binary.read? (format : Binary) (raw : Raw) : Option (Floating × Bool × Raw) :=
  let decimal : Option (Floating × Bool × Raw) :=
    (mantissa? Char.isDigit raw).map fun (whole, fraction, behind) =>
      let (exponent, rest) := exponentAt ['e', 'E'] behind
      let (value, range) := format.round
        (quotientOf 10 (digitsValue 10 (whole ++ fraction)) (exponent - fraction.length))
      (value, range, rest)
  if startsWith "infinity" raw then some (.infinite, false, raw.drop 8)
  else if startsWith "inf" raw then some (.infinite, false, raw.drop 3)
  else if startsWith "nan" raw then some (.notNumber, false, raw.drop 3)
  else if startsWith "0x" raw then
    match mantissa? isHexDigit (raw.drop 2) with
    | some (whole, fraction, behind) =>
      let (exponent, rest) := exponentAt ['p', 'P'] behind
      let (value, range) := format.round
        (quotientOf 2 (digitsValue 16 (whole ++ fraction)) (exponent - 4 * fraction.length))
      some (value, range, rest)
    | none => decimal
  else decimal

/-- Decimal digits with a point before the last ones. A point before none is left out unless it
is asked for. -/
def withPoint (places : Nat) (keepsPoint : Bool) (value : Nat) : Raw :=
  let digits := paddedDigits 10 (places + 1) value
  let point := if places = 0 && !keepsPoint then [] else ['.']
  digits.take (digits.length - places) ++ point ++ digits.drop (digits.length - places)

/-- The text with a number of places behind the point. -/
def positional (places : Nat) (keepsPoint : Bool) (quotient : Nat × Nat) : Raw :=
  let (numerator, denominator) := scale 10 places quotient
  withPoint places keepsPoint (nearest numerator denominator)

/-- The first digits of a quotient, one and some places, and the power of ten of the first. -/
def leading (places : Nat) (quotient : Nat × Nat) : Nat × Int :=
  if quotient.1 = 0 then (0, 0)
  else
    let guess : Int :=
      (Nat.toDigits 10 quotient.1).length - (Nat.toDigits 10 quotient.2).length
    let power := if (scale 10 (-guess) quotient).1 < (scale 10 (-guess) quotient).2 then guess - 1
      else guess
    let (numerator, denominator) := scale 10 (places - power) quotient
    let digits := nearest numerator denominator
    if Nat.pow 10 (places + 1) ≤ digits then (digits / 10, power + 1) else (digits, power)

/-- An exponent of at least two digits with its sign. -/
def exponentText (power : Int) : Raw :=
  (if power < 0 then ['e', '-'] else ['e', '+']) ++ paddedDigits 10 2 power.natAbs

/-- The text with one digit before the point, and the power of ten. -/
def scientific (places : Nat) (keepsPoint : Bool) (quotient : Nat × Nat) : Raw :=
  let (digits, power) := leading places quotient
  withPoint places keepsPoint digits ++ exponentText power

/-- The text without zeros at the end of its places. -/
def dropZeros (text : Raw) : Raw :=
  if text.contains '.' then
    ((text.reverse.dropWhile (· = '0')).dropWhile (· = '.')).reverse
  else text

/-- The text with some digits, in the shorter of both forms. Zeros at the end are left out
unless they are asked for. -/
def general (digits : Nat) (keepsZeros : Bool) (quotient : Nat × Nat) : Raw :=
  let places := max digits 1 - 1
  let trim (text : Raw) : Raw := if keepsZeros then text else dropZeros text
  let (leadingDigits, power) := leading places quotient
  if -4 ≤ power && power ≤ places then
    trim (positional (places - power).toNat keepsZeros quotient)
  else trim (withPoint places keepsZeros leadingDigits) ++ exponentText power

end DiagramEditor.Printf

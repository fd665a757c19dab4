import DiagramEditor.Text.Basic

/-! Decimal numbers with a fraction or an exponent, and whether a double can hold them.
Numbers from halfway between the greatest double and the next power of two on round
to infinity. The size of a number is first estimated by its number of digits, so an
exponent of any size does no harm. -/
namespace DiagramEditor.Toml

/-- The number `digits * 10 ^ (exponent - places)`. -/
structure Decimal where
  digits : Nat
  places : Nat
  exponent : Int
deriving DecidableEq, Repr

namespace Decimal

def naturalOf (digits : Text) : Nat :=
  digits.foldl (fun value c => value * 10 + (c.toNat - '0'.toNat)) 0

/-- Reads the exponent behind its mark; its absence stands for zero. -/
def exponent? (text : Text) : Option Int :=
  let natural? (digits : Text) : Option Nat :=
    if digits.isEmpty || !digits.all Char.isDigit then none else some (naturalOf digits)
  match text with
  | [] => some 0
  | _ :: '+' :: digits => (natural? digits).map Int.ofNat
  | _ :: '-' :: digits => (natural? digits).map fun n => -Int.ofNat n
  | _ :: digits => (natural? digits).map Int.ofNat

/-- Reads a number without a sign. Digits have to stand on both sides of the point. -/
def read? (text : Text) : Option Decimal :=
  let isMark (c : Char) : Bool := c = 'e' || c = 'E'
  let mantissa := text.takeWhile (!isMark ·)
  let whole := mantissa.takeWhile (· ≠ '.')
  let fraction := mantissa.dropWhile (· ≠ '.')
  if whole.isEmpty || !whole.all Char.isDigit || fraction.length = 1 ||
      !fraction.tail.all Char.isDigit then none
  else
    (exponent? (text.dropWhile (!isMark ·))).map fun exponent =>
      ⟨naturalOf (whole ++ fraction.tail), fraction.tail.length, exponent⟩

/-- The least number that rounds to infinity. -/
def overflowBound : Nat := (Nat.pow 2 54 - 1) * Nat.pow 2 970

def isFinite (number : Decimal) : Bool :=
  let shift := number.exponent - number.places
  let magnitude := shift + (Nat.toDigits 10 number.digits).length
  if number.digits = 0 || magnitude ≤ 308 then true
  else if 310 ≤ magnitude then false
  else number.digits * Nat.pow 10 shift.toNat < overflowBound * Nat.pow 10 (-shift).toNat

end Decimal
end DiagramEditor.Toml

/-! Hexadecimal digits. Letters of either case are read, upper-case ones written. -/
namespace DiagramEditor

def hexDigitValue? (c : Char) : Option Nat :=
  if c.isDigit then some (c.toNat - 48)
  else if 'a' ≤ c ∧ c ≤ 'f' then some (c.toNat - 87)
  else if 'A' ≤ c ∧ c ≤ 'F' then some (c.toNat - 55)
  else none

def upperHexDigit (n : Nat) : Char :=
  if n < 10 then Char.ofNat (48 + n) else Char.ofNat (55 + n)

theorem hexDigitValue?_upperHexDigit {n : Nat} (digit : n < 16) :
    hexDigitValue? (upperHexDigit n) = some n := by
  revert n
  decide

end DiagramEditor

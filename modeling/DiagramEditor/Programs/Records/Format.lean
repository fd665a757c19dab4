import DiagramEditor.Programs.Printf
import DiagramEditor.Programs.Records.Number

/-! Formatted text in scripts over records. Every conversion takes an argument, and one that is
missing ends the run. -/
namespace DiagramEditor.Records

open Printf

/-- What a conversion is given: a text, and the number that it stands for. -/
structure Argument where
  text : Raw := []
  number : Number := .zero
  isNumber : Bool := false
deriving Inhabited

inductive FormatFault where
  | missing
  | improper (position : Nat)
deriving DecidableEq, Repr

namespace Format

/-- A text that was put together, with what is wrong behind it. -/
abbrev Result := Raw × Option FormatFault

def Result.after (text : Raw) (result : Result) : Result := (text ++ result.1, result.2)

/-- The word without a sign that an argument is written as: that of its magnitude, or the
complement of that. -/
def unsignedWord (argument : Argument) : Nat :=
  match argument.number.parts with
  | (_, .notNumber) => halfWordRange
  | (negative, magnitude) =>
    let word : Nat := match magnitude with
      | .finite numerator denominator => min (numerator / denominator) (wordRange - 1)
      | _ => wordRange - 1
    if negative then (wordRange - word) % wordRange else word

/-- The text of one conversion, if there is one of that letter. -/
def convert? (layout : Layout) (conversion : Char) (argument : Argument) : Option Raw :=
  match conversion with
  | 'd' | 'i' =>
    let value := if conversion = 'd' then argument.number.toEitherWord else argument.number.toWord
    let sign := if value < (halfWordRange : Int) then layout.signOf (value < 0) else []
    some (layout.number sign (layout.digits 10 value.natAbs))
  | 'o' | 'x' | 'X' | 'u' =>
    some (layout.unsigned conversion (unsignedWord argument))
  | 'c' =>
    let c : Char := if argument.isNumber then Char.ofNat (argument.number.toWord % 256).toNat
      else argument.text.headD '\x00'
    some ({ layout with precision? := none }.pad [c])
  | 's' => some (layout.text argument.text)
  | 'e' | 'E' | 'f' | 'g' | 'G' =>
    let (negative, value) := argument.number.parts
    some (layout.floating conversion negative value)
  | _ => none

/-- The rest of a format, and the arguments that are left; `position` conversions are behind
us. -/
def go : (fuel : Nat) → (position : Nat) → Raw → List Argument → Result
  | 0, _, _, _ => ([], none)
  | _, _, [], _ => ([], none)
  | fuel + 1, position, '%' :: '%' :: rest, arguments =>
    Result.after ['%'] (go fuel position rest arguments)
  | fuel + 1, position, '%' :: rest, arguments =>
    let flags := rest.takeWhile fun c => "-+ #0".toList.contains c
    let count (raw : Raw) (arguments : List Argument) : Option (Int × Raw × List Argument) :=
      match raw with
      | '*' :: behind => arguments.head?.map fun argument =>
        (argument.number.toWord, behind, arguments.tail)
      | _ => some (digitsValue 10 (raw.takeWhile Char.isDigit), raw.dropWhile Char.isDigit,
        arguments)
    let found : Option (Layout × Raw × List Argument) := do
      let (width, behind, left) ← count (rest.drop flags.length) arguments
      let layout : Layout :=
        { left := flags.contains '-' || width < 0, zero := flags.contains '0'
          plus := flags.contains '+', blank := flags.contains ' ', marked := flags.contains '#'
          width := width.natAbs }
      match behind with
      | '.' :: more =>
        let (precision, behind, left) ← count more left
        some ({ layout with precision? := if precision < 0 then none else some precision.toNat },
          behind, left)
      | _ => some (layout, behind, left)
    match found with
    | some (layout, behind, argument :: left) =>
      let last := behind.dropWhile fun c => c = 'l' || c = 'h'
      let isWord := last.head?.any fun c => "dioxXu".toList.contains c
      match if behind.length = last.length || isWord then
          convert? layout (last.headD '\x00') argument else none with
      | some text => Result.after text (go fuel (position + 1) last.tail left)
      | none => ([], some (.improper (position + 1)))
    | _ => ([], some .missing)
  | fuel + 1, position, c :: rest, arguments =>
    Result.after [c] (go fuel position rest arguments)

/-- Writes arguments as a format says. -/
def write (format : Raw) (arguments : List Argument) : Result :=
  go (format.length + 1) 0 format arguments

end Format

/-- The text of a number: its digits if it is whole, or else as a format says. -/
def Number.toRaw (format : Raw) (number : Number) : Raw :=
  number.wholeText?.getD (Format.write format [{ number := number, isNumber := true }]).1

end DiagramEditor.Records

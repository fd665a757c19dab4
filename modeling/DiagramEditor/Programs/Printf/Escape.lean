import DiagramEditor.Programs.Raw
import DiagramEditor.Text.Hex

/-! Escapes that stand for bytes: a backslash with a letter, with octal or with hexadecimal
digits. Programs differ in those that they know; the others stay as they are. -/
namespace DiagramEditor.Printf

def isOctalDigit (c : Char) : Bool := '0' ≤ c && c ≤ '7'

def isHexDigit (c : Char) : Bool := (hexDigitValue? c).isSome

/-- The value of digits, which are taken as valid. -/
def digitsValue (base : Nat) (digits : Raw) : Nat :=
  digits.foldl (fun value c => value * base + (hexDigitValue? c).getD 0) 0

/-- The digits of a number, filled up with zeros in front. -/
def paddedDigits (base places value : Nat) : Raw :=
  let digits := (Nat.toDigits base value).map Char.toUpper
  List.replicate (places - digits.length) '0' ++ digits

/-- The escapes that only some programs know. -/
structure Escapes where
  /-- Bytes in hexadecimal. -/
  hex : Bool := false
  /-- Double quotes and code points. Digits that are missing are a fault then, and whatever else
  stands behind a backslash stays as it is. -/
  codePoints : Bool := false

inductive EscapeFault where
  | noHexDigits
  | noCharacter (name : Raw)
deriving DecidableEq, Repr

/-- How a text with escapes ends: with its last character, before that with an escape that
ends all output, or with a fault. -/
inductive Ending where
  | complete
  | stopped
  | faulty (fault : EscapeFault)
deriving DecidableEq, Repr

/-- The text of a code point where only ASCII characters can be written: all others are named. -/
def codePoint (letter : Char) (digits : Raw) : Except EscapeFault Raw :=
  let value := digitsValue 16 digits
  if 0xD800 ≤ value && value ≤ 0xDFFF then .error (.noCharacter ('\\' :: letter :: digits))
  else if value < 0x80 then .ok [Char.ofNat value]
  else if value < 0x10000 then .ok (['\\', 'u'] ++ paddedDigits 16 4 value)
  else .ok (['\\', 'U'] ++ paddedDigits 16 8 value)

/-- The bytes of an escape and the text behind it. The backslash is behind us. -/
def escape (known : Escapes) : Raw → Except EscapeFault (Raw × Raw)
  | 'a' :: rest => .ok (['\x07'], rest)
  | 'b' :: rest => .ok (['\x08'], rest)
  | 'e' :: rest => .ok (['\x1b'], rest)
  | 'f' :: rest => .ok (['\x0c'], rest)
  | 'n' :: rest => .ok (['\n'], rest)
  | 'r' :: rest => .ok (['\r'], rest)
  | 't' :: rest => .ok (['\t'], rest)
  | 'v' :: rest => .ok (['\x0b'], rest)
  | '\\' :: rest => .ok (['\\'], rest)
  | c :: rest =>
    let octal := ((c :: rest).take 3).takeWhile isOctalDigit
    let hex (most : Nat) : Raw := (rest.take most).takeWhile isHexDigit
    if !octal.isEmpty then
      .ok ([Char.ofNat (digitsValue 8 octal % 256)], (c :: rest).drop octal.length)
    else if c = '"' && known.codePoints then .ok ([c], rest)
    else if c = 'x' && known.hex then
      if !(hex 2).isEmpty then
        .ok ([Char.ofNat (digitsValue 16 (hex 2))], rest.drop (hex 2).length)
      else if known.codePoints then .error .noHexDigits
      else .ok (['\\', c], rest)
    else if (c = 'u' || c = 'U') && known.codePoints then
      let count := if c = 'u' then 4 else 8
      if (hex count).length < count then .error .noHexDigits
      else (codePoint c (hex count)).map (·, rest.drop count)
    else if known.codePoints then .ok (['\\', c], rest)
    else .ok (['\\'], c :: rest)
  | [] => .ok (['\\'], [])

/-- A text with its escapes replaced. An octal escape may have a zero more in front. A
`c` escape ends the text, and with it all output. -/
def unescape (known : Escapes) : (fuel : Nat) → Raw → Raw × Ending
  | 0, _ => ([], .complete)
  | _, [] => ([], .complete)
  | _, '\\' :: 'c' :: _ => ([], .stopped)
  | fuel + 1, '\\' :: rest =>
    let octal := match rest with
      | '0' :: c :: more => if isOctalDigit c then c :: more else rest
      | _ => rest
    match escape known octal with
    | .error fault => ([], .faulty fault)
    | .ok (text, behind) =>
      let (more, ending) := unescape known fuel behind
      (text ++ more, ending)
  | fuel + 1, c :: rest =>
    let (more, ending) := unescape known fuel rest
    (c :: more, ending)

end DiagramEditor.Printf

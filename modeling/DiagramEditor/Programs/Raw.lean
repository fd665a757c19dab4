import DiagramEditor.Text.Utf8

/-! Raw text: one character for each byte, so that programs can treat bytes of any value
by the rules for ASCII characters. -/
namespace DiagramEditor

/-- A byte sequence as characters below 256. -/
abbrev Raw := List Char

namespace Raw

def ofBytes (bytes : Bytes) : Raw := bytes.map fun byte => Char.ofNat byte.toNat

def toBytes (raw : Raw) : Bytes := raw.map fun c => UInt8.ofNat c.toNat

def ofString (text : String) : Raw := ofBytes (Text.toUtf8 text.toList)

/-- The text of the bytes, with replacement characters where they are none. -/
def readable (raw : Raw) : String := String.ofList (Utf8.decodeLossy raw.toBytes)

/-- Whether a text comes no later than another one, byte by byte. -/
def comesFirst : Raw → Raw → Bool
  | [], _ => true
  | _ :: _, [] => false
  | a :: left, b :: right => a < b || (a = b && comesFirst left right)

/-- The octal escape of a byte. -/
def octalEscape (c : Char) : Raw :=
  let digits := Nat.toDigits 8 c.toNat
  '\\' :: List.replicate (3 - digits.length) '0' ++ digits

/-- The escape of a control character that has a letter of its own. -/
def letterEscape? : Char → Option Raw
  | '\x07' => some ['\\', 'a']
  | '\x08' => some ['\\', 'b']
  | '\x0c' => some ['\\', 'f']
  | '\n' => some ['\\', 'n']
  | '\r' => some ['\\', 'r']
  | '\t' => some ['\\', 't']
  | '\x0b' => some ['\\', 'v']
  | _ => none

def isPrintable (c : Char) : Bool := ' ' ≤ c && c ≤ '~'

/-- The escape of a byte that is not in print. -/
def escapeOf (c : Char) : Raw := (letterEscape? c).getD (octalEscape c)

/-- The text in single quotes, in ASCII: an escape stands for every other byte, a backslash and
a quote. -/
def quoted (raw : Raw) : String :=
  String.ofList ('\'' :: (raw.flatMap fun c =>
    if c = '\\' || c = '\'' then ['\\', c]
    else if isPrintable c then [c]
    else escapeOf c) ++ ['\''])

/-- The text in quotes from which a shell gets it back. Double quotes are used if there is a
single quote and nothing that has a meaning between double ones. -/
def shellQuoted (raw : Raw) : String :=
  let plain (c : Char) : Bool := isPrintable c && !"!\"$\\\x60".toList.contains c
  if raw.contains '\'' && raw.all plain then String.ofList ('"' :: raw ++ ['"'])
  else
    let (text, _) := raw.foldl (fun (text, escaping) c =>
      if isPrintable c then
        let opened := if escaping then text ++ ['\'', '\''] else text
        (opened ++ if c = '\'' then ['\'', '\\', '\'', '\''] else [c], false)
      else
        let opened := if escaping then text else text ++ ['\'', '$', '\'']
        (opened ++ escapeOf c, true)) (([], false) : Raw × Bool)
    String.ofList ('\'' :: text ++ ['\''])

/-- The text as it is, or in quotes if it is empty or has characters with a meaning in a shell. -/
def quotedIfNeeded (raw : Raw) : String :=
  let hasMeaning (c : Char) : Bool :=
    !isPrintable c || " !\"$&'()*:;<=>?[\\^\x60|".toList.contains c
  let opens (c : Char) : Bool := c = '#' || c = '~'
  let needed := raw.isEmpty || raw.any hasMeaning || raw.head?.any opens ||
    raw = ['\x7b'] || raw = ['\x7d']
  if needed then shellQuoted raw
  else String.ofList raw

end Raw
end DiagramEditor

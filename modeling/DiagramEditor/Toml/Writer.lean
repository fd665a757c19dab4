import DiagramEditor.Text.Hex
import DiagramEditor.Toml.Layout

/-! Writing TOML. A string takes the first form that shows it best: double quotes where
nothing in it needs an escape, else single quotes, else one of the multi-line forms,
and double quotes with escapes where no other form can hold it. An array of more than
one string has each of its items on a line of its own. -/
namespace DiagramEditor.Toml

/-- The length of the longest run of a character. `current` is the run that ends here. -/
def longestRun (quote : Char) (current : Nat) : Text → Nat
  | [] => current
  | c :: rest =>
    if c = quote then longestRun quote (current + 1) rest
    else max current (longestRun quote 0 rest)

/-- What decides over the form of a string. -/
structure StringTraits where
  controls : Bool
  backslash : Bool
  newline : Bool
  doubleQuotes : Nat
  singleQuotes : Nat
deriving DecidableEq, Repr

def StringTraits.of (text : Text) : StringTraits where
  controls := text.any fun c => isControl c && c ≠ '\n'
  backslash := text.contains '\\'
  newline := text.contains '\n'
  doubleQuotes := longestRun '"' 0 text
  singleQuotes := longestRun '\'' 0 text

inductive StringForm where
  | basic | literal | multilineBasic | multilineLiteral
deriving DecidableEq, Repr

def StringTraits.form (traits : StringTraits) : StringForm :=
  if !traits.controls && !traits.backslash && traits.doubleQuotes = 0 && !traits.newline then
    .basic
  else if !traits.controls && traits.singleQuotes = 0 && !traits.newline then .literal
  else if !traits.controls && !traits.backslash && traits.doubleQuotes ≤ 2 then .multilineBasic
  else if !traits.controls && traits.singleQuotes ≤ 2 then .multilineLiteral
  else if traits.newline then .multilineBasic
  else .basic

/-- A control character by the four digits of its code point. -/
def codePointEscape (c : Char) : Text :=
  ['\\', 'u', '0', '0', upperHexDigit (c.toNat / 16), upperHexDigit (c.toNat % 16)]

/-- A character between double quotes, if it is neither a quote nor a newline. -/
def escapeChar (c : Char) : Text :=
  match c with
  | '\\' => ['\\', '\\']
  | '\x08' => ['\\', 'b']
  | '\t' => ['\\', 't']
  | '\x0c' => ['\\', 'f']
  | '\r' => ['\\', 'r']
  | c => if isControl c then codePointEscape c else [c]

/-- A character of a one-line string. -/
def escapeOneLine (c : Char) : Text :=
  match c with
  | '"' => ['\\', '"']
  | '\n' => ['\\', 'n']
  | c => escapeChar c

/-- The characters of a multi-line string. Every third quote of a run is escaped, and
`run` counts the quotes since the last one that was. -/
def escapeMultiline (run : Nat) : Text → Text
  | [] => []
  | c :: rest =>
    if c = '"' then
      if run = 2 then '\\' :: '"' :: escapeMultiline 0 rest
      else '"' :: escapeMultiline (run + 1) rest
    else if c = '\n' then '\n' :: escapeMultiline 0 rest
    else escapeChar c ++ escapeMultiline 0 rest

/-- The line end behind the opening quotes of a multi-line form. -/
def openingLineEnd (traits : StringTraits) : Text := if traits.newline then ['\n'] else []

def writeString (text : Text) : Text :=
  let traits := StringTraits.of text
  match traits.form with
  | .basic => '"' :: text.flatMap escapeOneLine ++ ['"']
  | .literal => '\'' :: text ++ ['\'']
  | .multilineBasic =>
    List.replicate 3 '"' ++ openingLineEnd traits ++ escapeMultiline 0 text ++ List.replicate 3 '"'
  | .multilineLiteral =>
    List.replicate 3 '\'' ++ openingLineEnd traits ++ text ++ List.replicate 3 '\''

def writeInteger (n : Nat) : Text := Nat.toDigits 10 n

def writeStrings (items : List Text) : Text :=
  match items with
  | [] => "[]".toList
  | [item] => '[' :: writeString item ++ [']']
  | _ =>
    "[\n".toList ++ (items.flatMap fun item => "    ".toList ++ writeString item ++ ",\n".toList) ++
      [']']

/-- What is written behind the equals sign of an assignment. -/
inductive Field where
  | integer (value : Nat)
  | string (text : String)
  | strings (items : List String)
deriving DecidableEq, Repr

def Field.write : Field → Text
  | integer value => writeInteger value
  | string text => writeString text.toList
  | strings items => writeStrings (items.map String.toList)

/-- A table under its header, with its fields in order. -/
structure Section where
  name : String
  fields : List (String × Field)
deriving DecidableEq, Repr

def Section.write (table : Section) : Text :=
  '[' :: table.name.toList ++ "]\n".toList ++
    table.fields.flatMap fun (key, field) =>
      key.toList ++ " = ".toList ++ field.write ++ ['\n']

/-- Tables one after the other with an empty line between two of them. -/
def writeSections : List Section → Text
  | [] => []
  | [table] => table.write
  | table :: next :: more => table.write ++ '\n' :: writeSections (next :: more)

end DiagramEditor.Toml

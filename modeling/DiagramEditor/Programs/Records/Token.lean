import DiagramEditor.Programs.Records.Pattern
import DiagramEditor.Programs.Records.Script

/-! The words and signs of scripts over records, each with its line. What came before decides
whether a slash divides or opens a regular expression. -/
namespace DiagramEditor.Records

/-- What is wrong with a script. -/
inductive Complaint where
  | near (text : String)
  | runaway (what : String) (text : Raw)
  | badPattern (fault : PatternFault) (source : Raw)
deriving DecidableEq, Repr

structure Fault where
  line : Nat
  complaint : Complaint
deriving DecidableEq, Repr

def Fault.message (fault : Fault) : String :=
  let text : String := match fault.complaint with
    | .near text => s!"syntax error at or near {text}"
    | .runaway what text => s!"runaway {what}{text.readable} ..."
    | .badPattern fault source =>
      s!"regular expression compile failed ({fault.message})\n{source.readable}"
  s!"line {fault.line}: {text}"

inductive Token where
  | number (value : Number) (source : Raw)
  | text (content : Raw)
  | pattern (source : Raw)
  | name (name : Raw)
  | word (word : String)
  | builtin (name : String) (function : Builtin)
  | sign (text : String)
  | lineEnd
  | fileEnd
  | fault (complaint : Complaint)
deriving Inhabited

/-- The text of a token in a complaint. -/
def Token.describe : Token → String
  | number _ source => source.readable
  | text content => content.readable
  | pattern source => s!"/{source.readable}/"
  | name content => content.readable
  | word content => content
  | builtin content _ => content
  | sign content => content
  | lineEnd => "end of line"
  | fileEnd => "end of file"
  | fault _ => ""

/-- A token with its line. -/
structure Located where
  token : Token
  line : Nat
deriving Inhabited

def keywords : List String :=
  ["BEGIN", "END", "break", "continue", "else", "exit", "for", "if", "next", "print", "printf",
    "while"]

def builtins : List (String × Builtin) :=
  [("length", .length), ("substr", .substring), ("index", .index), ("sprintf", .format),
    ("int", .whole), ("tolower", .toLower), ("toupper", .toUpper)]

def signs : List String :=
  ["&&", "||", "++", "--", "+=", "-=", "*=", "/=", "%=", "^=", "==", "!=", "<=", ">=", "!~",
    "\x7b", "\x7d", "(", ")", ";", ",", "+", "-", "*", "/", "%", "^", "!", "<", ">", "?", ":",
    "~", "$", "="]

def isNameStart (c : Char) : Bool := c.isAlpha || c = '_'

def isNamePart (c : Char) : Bool := c.isAlphanum || c = '_'

/-- The source of a text constant up to its closing quote. The first quote is behind us. -/
def textSource : (fuel : Nat) → Raw → Option (Raw × Raw)
  | 0, _ | _, [] | _, '\n' :: _ => none
  | _, '"' :: rest => some ([], rest)
  | fuel + 1, '\\' :: '\n' :: rest => textSource fuel rest
  | fuel + 1, '\\' :: c :: rest =>
    (textSource fuel rest).map fun (more, last) => ('\\' :: c :: more, last)
  | fuel + 1, c :: rest => (textSource fuel rest).map fun (more, last) => (c :: more, last)

/-- The text with its escapes replaced. -/
def unescaped : (fuel : Nat) → Raw → Raw
  | 0, _ | _, [] => []
  | fuel + 1, '\\' :: rest =>
    match rest with
    | '"' :: behind => '"' :: unescaped fuel behind
    | '\\' :: behind => '\\' :: unescaped fuel behind
    | _ =>
      match unescape? rest with
      | some (c, behind) => c :: unescaped fuel behind
      | none => '\\' :: unescaped fuel rest
  | fuel + 1, c :: rest => c :: unescaped fuel rest

/-- The source of a regular expression up to its closing slash, which may stand between
brackets. The first slash is behind us. -/
def patternSource : (fuel : Nat) → (inSet : Bool) → Raw → Option (Raw × Raw)
  | 0, _, _ | _, _, [] | _, _, '\n' :: _ => none
  | fuel + 1, inSet, '\\' :: '/' :: rest =>
    (patternSource fuel inSet rest).map fun (more, last) => ('/' :: more, last)
  | fuel + 1, inSet, '\\' :: c :: rest =>
    (patternSource fuel inSet rest).map fun (more, last) => ('\\' :: c :: more, last)
  | fuel + 1, inSet, c :: rest =>
    if c = '/' && !inSet then some ([], rest)
    else
      let opens := c = '[' && !inSet
      let opening : Raw := if opens then
          match rest with
          | '^' :: ']' :: _ => ['^', ']']
          | ']' :: _ => [']']
          | _ => []
        else []
      let inSet := opens || (inSet && c ≠ ']')
      (patternSource fuel inSet (rest.drop opening.length)).map fun (more, last) =>
        (c :: opening ++ more, last)

/-- A number at the start of a script's rest, which starts with a digit or with a point and a
digit. -/
def numberToken (raw : Raw) : Token × Raw :=
  match Printf.mantissa? Char.isDigit raw with
  | some (whole, fraction, behind) =>
    let (exponent, rest) := Printf.exponentAt ['e', 'E'] behind
    let source := raw.take (raw.length - rest.length)
    let (value, _) := Printf.Binary.double.round
      (Printf.quotientOf 10 (Printf.digitsValue 10 (whole ++ fraction))
        (exponent - fraction.length))
    (.number (.ofFloating false value) source, rest)
  | none => (.fault (.near "."), raw.tail)

/-- Whether a value comes from what ends with a token, so that a slash behind it divides. -/
def Token.endsValue : Token → Bool
  | .number _ _ | .text _ | .pattern _ | .name _ => true
  | .sign content => content = ")"
  | _ => false

/-- The next token and the rest; `behindValue` if a slash divides here. -/
def token? (behindValue : Bool) (raw : Raw) : Option (Token × Raw) :=
  match raw with
  | [] => none
  | '\n' :: rest => some (.lineEnd, rest)
  | '"' :: rest =>
    match textSource (rest.length + 1) rest with
    | some (source, behind) => some (.text (unescaped (source.length + 1) source), behind)
    | none =>
      some (.fault (.runaway "string constant " ('"' :: (rest.takeWhile (· ≠ '\n')).take 10)), [])
  | c :: rest =>
    if c.isDigit || (c = '.' && rest.head?.any Char.isDigit) then some (numberToken raw)
    else if isNameStart c then
      let name := raw.takeWhile isNamePart
      let text := String.ofList name
      let token : Token :=
        if keywords.contains text then .word text
        else match builtins.lookup text with
          | some function => .builtin text function
          | none => .name name
      some (token, raw.dropWhile isNamePart)
    else if c = '/' && !behindValue then
      match patternSource (rest.length + 1) false rest with
      | some (source, behind) =>
        match Pattern.compile source with
        | .ok _ => some (.pattern source, behind)
        | .error fault => some (.fault (.badPattern fault source), behind)
      | none =>
        some (.fault (.runaway "regular expression /" ((rest.takeWhile (· ≠ '\n')).take 10)), [])
    else
      match signs.find? fun text => text.toList.isPrefixOf raw with
      | some text => some (.sign text, raw.drop text.length)
      | none => some (.fault (.near c.toString), rest)

/-- All tokens of a script. -/
def tokens : (fuel : Nat) → (line : Nat) → (behindValue : Bool) → Raw → List Located
  | 0, _, _, _ => []
  | fuel + 1, line, behindValue, raw =>
    match raw with
    | '\\' :: '\n' :: rest => tokens fuel (line + 1) behindValue rest
    | '#' :: rest => tokens fuel line behindValue (rest.dropWhile (· ≠ '\n'))
    | ' ' :: rest | '\t' :: rest | '\r' :: rest => tokens fuel line behindValue rest
    | _ =>
      match token? behindValue raw with
      | none => [⟨.fileEnd, line⟩]
      | some (token, rest) =>
        let next := if token matches .lineEnd then line + 1 else line
        ⟨token, line⟩ :: tokens fuel next token.endsValue rest

end DiagramEditor.Records

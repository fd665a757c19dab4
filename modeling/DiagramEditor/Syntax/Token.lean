import DiagramEditor.Syntax.Keyword
import DiagramEditor.Text.Split

/-! Tokens, and the scanner that cuts a line into them one at a time. A keyword is
looked for only at the start of the line; then come the rules that hold anywhere;
where none holds, one character is plain text. The scanner may be started at any
position between two characters. -/
namespace DiagramEditor.Syntax

/-- A classified piece of a source, with its place in it. -/
structure Token where
  category : Category
  text : Text
  span : ByteRange
deriving DecidableEq, Repr, Inhabited

/-- The same piece, `offset` bytes further to the right. -/
def Token.shift (token : Token) (offset : Nat) : Token :=
  ⟨token.category, token.text, token.span.shift offset⟩

/-- What the scanner carries along a line. A string closes on the line it opens
on, so scanning neither reads nor changes the state. -/
structure ScanState where
  inString : Bool := false
  quote? : Option Quote := none
deriving DecidableEq, Repr, Inhabited

/-- The class of the first token of a nonempty text, and its number of characters. -/
def classifyStart (atLineStart : Bool) (rest : Text) : Category × Nat :=
  match if atLineStart then keywordLength? rest else none with
  | some length => (.keyword, length)
  | none =>
    match matchRule? rest with
    | some found => (found.rule.category, found.length)
    | none => (.plain, 1)

/-- A scanner at a position of a line, with what is left of the line. -/
structure LineScanner where
  position : Nat
  rest : Text
  state : ScanState
deriving DecidableEq, Repr

namespace LineScanner

/-- The scanner at the start of a line. -/
def ofLine (line : Text) : LineScanner := ⟨0, line, {}⟩

/-- The scanner at an offset of a line; none unless the offset is a boundary. -/
def at? (line : Text) (position : Nat) (state : ScanState) : Option LineScanner :=
  if line.IsBoundary position then some ⟨position, line.dropBytes position, state⟩ else none

/-- The next token, and the scanner behind it. A token has at least one character. -/
def next? (scanner : LineScanner) : Option (Token × LineScanner) :=
  match scanner.rest with
  | [] => none
  | c :: more =>
    let (category, length) := classifyStart (scanner.position = 0) (c :: more)
    let text : Text := c :: more.take (length - 1)
    let stop := scanner.position + text.size
    some (⟨category, text, ⟨scanner.position, stop⟩⟩,
      ⟨stop, more.drop (length - 1), scanner.state⟩)

theorem next?_rest_lt {scanner behind : LineScanner} {token : Token}
    (step : scanner.next? = some (token, behind)) : behind.rest.length < scanner.rest.length := by
  unfold next? at step
  split at step
  · contradiction
  · rename_i c more eq
    simp only [Option.some.injEq, Prod.mk.injEq] at step
    obtain ⟨-, rfl⟩ := step
    simp only [eq, List.length_drop, List.length_cons]
    omega

/-- The tokens from the scanner's position to the end of the line. -/
def tokens (scanner : LineScanner) : List Token :=
  match _step : scanner.next? with
  | none => []
  | some (token, behind) => token :: behind.tokens
termination_by scanner.rest.length
decreasing_by exact next?_rest_lt _step

end LineScanner

/-- One token of a line from a byte position on; none at the end of the line, past
it, and inside a character. -/
def scanToken? (line : Text) (position : Nat) (state : ScanState) : Option (Token × ScanState) :=
  (LineScanner.at? line position state).bind fun scanner =>
    scanner.next?.map fun (token, behind) => (token, behind.state)

/-- The tokens of a text read as one line: a newline in it is plain text. -/
def tokenizeLine (line : Text) : List Token :=
  (LineScanner.ofLine line).tokens

def newlineToken (offset : Nat) : Token :=
  ⟨.plain, ['\n'], ⟨offset, offset + 1⟩⟩

/-- The tokens of consecutive lines that begin at `offset`, with a plain token for
the newline between two of them. -/
def tokenizeLines (offset : Nat) : List Text → List Token
  | [] => []
  | [line] => (tokenizeLine line).map (·.shift offset)
  | line :: next :: more =>
    let stop := offset + line.size
    (tokenizeLine line).map (·.shift offset) ++
      newlineToken stop :: tokenizeLines (stop + 1) (next :: more)

/-- The tokens of a whole source. A keyword may open each of its lines. -/
def tokenize (source : Text) : List Token := tokenizeLines 0 (source.split '\n')

end DiagramEditor.Syntax

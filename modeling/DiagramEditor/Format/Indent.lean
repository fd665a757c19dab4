import DiagramEditor.Format.Options
import DiagramEditor.Syntax.Rule
import DiagramEditor.Text.Lines
import DiagramEditor.Text.Whitespace

/-! Indentation by block depth. A line that opens a block stands at the depth of
its surroundings, what follows one level deeper, and the line that closes the block
back at the outer depth. A surplus closing line leaves the depth at zero. Formatting
trims every line, drops the blank ones and writes the others at their depth. -/
namespace DiagramEditor

/-- How a line changes the block depth. -/
inductive LineKind where
  | opener | closer | other
deriving DecidableEq, Repr, Inhabited

/-- The line begins with the word, and no ASCII word character follows. -/
def startsWithWord (word line : Text) : Bool :=
  word.isPrefixOf line && !(line.drop word.length).head?.any Syntax.isWordChar

namespace LineKind

/-- The line is taken as it stands, so an indent hides the word behind it. -/
def classify (line : Text) : LineKind :=
  if startsWithWord "end".toList line then closer
  else if startsWithWord "subgraph".toList line || startsWithWord "group".toList line then opener
  else other

/-- The depth at which a line is written when it is reached at `depth`. -/
def written (kind : LineKind) (depth : Nat) : Nat :=
  match kind with
  | closer => depth - 1
  | opener | other => depth

/-- The depth that a line reached at `depth` leaves behind. -/
def next (kind : LineKind) (depth : Nat) : Nat :=
  match kind with
  | closer => depth - 1
  | opener => depth + 1
  | other => depth

end LineKind

/-- The block depth reached so far in a formatting pass. -/
structure IndentState where
  depth : Nat := 0
deriving DecidableEq, Repr, Inhabited

namespace IndentState

/-- A line written at its depth, and the state behind it. -/
def renderLine (options : FormatOptions) (state : IndentState) (line : Text) :
    Text × IndentState :=
  let kind := LineKind.classify line
  (List.replicate (kind.written state.depth * options.indentSize) ' ' ++ line,
    ⟨kind.next state.depth⟩)

/-- Consecutive lines, each written in the state that the ones before it leave. -/
def renderLines (options : FormatOptions) (state : IndentState) : List Text → List Text
  | [] => []
  | line :: more =>
    let (written, behind) := state.renderLine options line
    written :: behind.renderLines options more

/-- The state behind consecutive lines. -/
def after (state : IndentState) (lines : List Text) : IndentState :=
  lines.foldl (fun state line => ⟨(LineKind.classify line).next state.depth⟩) state

end IndentState

/-- The trimmed lines of a source that are not blank. -/
def contentLines (source : Text) : List Text :=
  (source.lines.map Text.trim).filter (!·.isEmpty)

def formatSource (options : FormatOptions) (source : Text) : Text :=
  Text.join '\n' (IndentState.renderLines options {} (contentLines source))

def formatBytes (options : FormatOptions) (bytes : Bytes) : Except FormatError Text :=
  match Utf8.decode bytes with
  | .ok source => .ok (formatSource options source)
  | .error error => .error (.invalidUtf8 error)

end DiagramEditor

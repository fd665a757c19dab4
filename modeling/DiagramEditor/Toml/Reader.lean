import DiagramEditor.Toml.Quoted
import DiagramEditor.Toml.Scalar
import DiagramEditor.Toml.Table

/-! Reading TOML. A document is a sequence of statements, one a line: a value assigned to a
key, or a header that opens a table. Reading fails where the text is no sequence of
statements, and where a statement contradicts one before it. Arrays and inline tables
may stand in one another up to a fixed depth, and as many keys may be dotted together.
Between brackets and braces, line ends and comments count as blanks. Every step consumes a
character, so the number of characters bounds the number of steps. -/
namespace DiagramEditor.Toml

def maxNesting : Nat := 80

def isBareKeyChar (c : Char) : Bool := c.isAlphanum || c = '_' || c = '-'

/-- Reads one key, bare or in quotes. -/
def simpleKey? (rest : Text) : Option (String × Text) :=
  match Quoted.oneLine? rest with
  | some (key, behind) => some (String.ofList key, behind)
  | none =>
    let key := rest.takeWhile isBareKeyChar
    if key.isEmpty then none else some (String.ofList key, rest.dropWhile isBareKeyChar)

/-- A key with the keys before it that dots separate. -/
structure KeyPath where
  path : List String
  key : String
deriving DecidableEq, Repr

/-- Reads dotted keys and the blanks behind them. At most `count` keys may stand in a row. -/
def dottedKeys? : (count : Nat) → Text → Option (KeyPath × Text)
  | 0, _ => none
  | count + 1, rest => do
    let (key, behind) ← simpleKey? rest
    match skipBlanks behind with
    | '.' :: more =>
      let (inner, last) ← dottedKeys? count (skipBlanks more)
      some (⟨key :: inner.path, inner.key⟩, last)
    | last => some (⟨[], key⟩, last)

def keyPath? : Text → Option (KeyPath × Text) := dottedKeys? maxNesting

/-- The table of the assignments in braces. -/
def inlineTable? (assignments : List (KeyPath × Value)) : Option Value :=
  (assignments.foldlM
    (fun entries assignment =>
      Entries.assign assignment.1.path assignment.1.key assignment.2 entries) []).map
    fun entries => .table (entriesToValues entries)

/-- Reads the equals sign of an assignment with the blanks around it. -/
def equals? (rest : Text) : Option Text :=
  match skipBlanks rest with
  | '=' :: behind => some (skipBlanks behind)
  | _ => none

mutual

/-- Reads a value. `nesting` is the number of brackets that may still be opened. -/
def value? : (fuel nesting : Nat) → Text → Option (Value × Text)
  | 0, _, _ => none
  | fuel + 1, nesting, rest =>
    match rest with
    | [] => none
    | '[' :: behind =>
      match nesting with
      | 0 => none
      | nesting + 1 => do
        let (items, last) ← items? fuel nesting (skipLines behind)
        some (.array items, last)
    | '\x7b' :: behind =>
      match nesting with
      | 0 => none
      | nesting + 1 => do
        let (assignments, last) ← assignments? fuel nesting (skipLines behind)
        (inlineTable? assignments).map (·, last)
    | c :: _ =>
      if c = '"' || c = '\'' then
        (Quoted.string? rest).map fun (text, last) => (.string (String.ofList text), last)
      else Scalar.read? rest

/-- Reads the items of an array up to its closing bracket. -/
def items? : (fuel nesting : Nat) → Text → Option (List Value × Text)
  | 0, _, _ => none
  | fuel + 1, nesting, rest =>
    match rest with
    | ']' :: last => some ([], last)
    | _ => do
      let (item, behind) ← value? fuel nesting rest
      match skipLines behind with
      | ',' :: more =>
        let (items, last) ← items? fuel nesting (skipLines more)
        some (item :: items, last)
      | ']' :: last => some ([item], last)
      | _ => none

/-- Reads the assignments of an inline table up to its closing brace. -/
def assignments? : (fuel nesting : Nat) → Text → Option (List (KeyPath × Value) × Text)
  | 0, _, _ => none
  | fuel + 1, nesting, rest =>
    match rest with
    | '\x7d' :: last => some ([], last)
    | _ => do
      let (key, behind) ← keyPath? rest
      let (value, behind) ← value? fuel nesting (skipLines (← equals? (skipLines behind)))
      match skipLines behind with
      | ',' :: more =>
        let (assignments, last) ← assignments? fuel nesting (skipLines more)
        some ((key, value) :: assignments, last)
      | '\x7d' :: last => some ([(key, value)], last)
      | _ => none

end

inductive Statement where
  | assign (key : KeyPath) (value : Value)
  | table (key : KeyPath)
  | arrayTable (key : KeyPath)
deriving Repr

/-- Reads a statement at the start of a line. -/
def statement? (fuel : Nat) (rest : Text) : Option (Statement × Text) :=
  match rest with
  | '[' :: '[' :: behind => do
    match ← keyPath? (skipBlanks behind) with
    | (key, ']' :: ']' :: last) => some (.arrayTable key, last)
    | _ => none
  | '[' :: behind => do
    match ← keyPath? (skipBlanks behind) with
    | (key, ']' :: last) => some (.table key, last)
    | _ => none
  | _ => do
    let (key, behind) ← keyPath? rest
    let (value, last) ← value? fuel maxNesting (← equals? behind)
    some (.assign key value, last)

/-- Reads the statements of a document. -/
def statements? : (fuel : Nat) → Text → Option (List Statement)
  | 0, _ => none
  | fuel + 1, rest =>
    match skipLines rest with
    | [] => some []
    | start => do
      let (statement, behind) ← statement? fuel start
      (statements? fuel (← finishLine? behind)).map (statement :: ·)

/-- The tables read so far, and the path of the table that the last header opened. -/
structure Draft where
  entries : Entries := []
  header? : Option KeyPath := none

/-- The draft after one more statement; none if the statement contradicts it. -/
def Draft.add (draft : Draft) : Statement → Option Draft
  | .assign key value =>
    match draft.header? with
    | none =>
      (Entries.assign key.path key.key value draft.entries).map ({ draft with entries := · })
    | some header =>
      (Entries.change .passed (fun _ => Entries.assign key.path key.key value)
        (header.path ++ [header.key]) .header draft.entries).map ({ draft with entries := · })
  | .table key => (Entries.openTable key.path key.key draft.entries).map (⟨·, some key⟩)
  | .arrayTable key => (Entries.openArrayTable key.path key.key draft.entries).map (⟨·, some key⟩)

/-- The text without a byte order mark at its start. -/
def dropByteOrderMark : Text → Text
  | '\uFEFF' :: rest => rest
  | rest => rest

/-- Reads a document into its table. -/
def read? (document : Text) : Option (List (String × Value)) := do
  let text := dropByteOrderMark document
  let statements ← statements? (text.length + 1) text
  let draft ← statements.foldlM Draft.add {}
  some (entriesToValues draft.entries)

end DiagramEditor.Toml

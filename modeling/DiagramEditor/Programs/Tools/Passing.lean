import DiagramEditor.Programs.Printf.Number
import DiagramEditor.Programs.Tools.Basic

/-! Programs that pass on what they read: all of it, or the first lines or bytes. -/
namespace DiagramEditor.Tools

open Work

def cat : Tool := fun args => do
  let given ← readOptions "cat" 1 { flags := "u" } args
  put (← readOperands "cat" given.operands)
  if !(← get).isInputOpen && (orInput given.operands).contains ['-'] then
    fail "cat" "closing standard input: Bad file descriptor" 1

/-- A count of lines or bytes. -/
structure Count where
  inBytes : Bool := false
  /-- Whether the count is of what is left out at the end. -/
  leavesOut : Bool := false
  number : Nat := 10

/-- Reads a count behind the option of its kind. -/
def Count.read (inBytes : Bool) (text : Raw) : Work Count := do
  let body : Raw := if text.head? = some '-' || text.head? = some '+' then text.tail else text
  if !body.isEmpty && body.all Char.isDigit then
    return { inBytes, leavesOut := text.head? = some '-', number := Printf.digitsValue 10 body }
  else
    let unit := if inBytes then "bytes" else "lines"
    abort "head" s!"invalid number of {unit}: {body.shellQuoted}" 1

/-- The first lines or bytes of a text. -/
def Count.first (count : Count) (text : Raw) : Raw :=
  let pieces := if count.inBytes then text.map ([·]) else linesWithEnds text
  (if count.leavesOut then pieces.take (pieces.length - count.number)
    else pieces.take count.number).flatten

def headOptions : KnownOptions where
  flags := "qv"
  valued := "cn"
  words := [("bytes", "c"), ("lines", "n"), ("quiet", "q"), ("silent", "q"), ("verbose", "v")]

def head : Tool := fun args => do
  let given ← readOptions "head" 1 headOptions (newStyle args)
  let counts : List Count ← (given.given.filter fun (key, _) => key = "c" || key = "n").mapM
    fun (key, value) => Count.read (key = "c") value
  let count := counts.getLast?.getD {}
  let operands := orInput given.operands
  let named := given.has "v" || (1 < operands.length && !given.has "q")
  let _ ← operands.foldlM (fun (isFirst : Bool) operand => do
    let title := if operand = ['-'] then "standard input".toList else operand
    match ← readOperand operand with
    | .ok content =>
      if named then
        put ((if isFirst then [] else ['\n']) ++ "==> ".toList ++ title ++ " <==\n".toList)
      put (count.first content)
      return false
    | .error error =>
      fail "head" (readFailure "head" title error) 1
      return isFirst) true
where
  /-- The arguments with a bare count in front, such as `-3`, as an option with a value. -/
  newStyle : List Raw → List Raw
    | ('-' :: c :: more) :: rest =>
      if (c :: more).all Char.isDigit then ['-', 'n'] :: (c :: more) :: rest
      else ('-' :: c :: more) :: rest
    | args => args

end DiagramEditor.Tools

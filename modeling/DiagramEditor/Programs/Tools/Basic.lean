import DiagramEditor.Host.FileSystem
import DiagramEditor.Programs.Tools.Options

/-! Small programs: what one works on, what it writes, and how it reads the files that its
operands name. -/
namespace DiagramEditor.Tools

/-- What a program wrote and the code it ended with, where it does no more than that. -/
structure Output where
  stdout : Raw := []
  stderr : Raw := []
  code : Nat := 0

/-- What a program works on, and what it has written so far. -/
structure Job where
  stdin : Raw := []
  /-- Whether there is an input at all. -/
  isInputOpen : Bool := true
  files : FileSystem := {}
  /-- How the program was called. -/
  calledAs : Raw := []
  /-- The texts that were written, each with the number of its stream, the newest first. -/
  writes : List (Nat × Raw) := []
  code : Nat := 0

/-- The work of a program, which may end it early. -/
abbrev Work := ExceptT Unit (StateM Job)

/-- A program, by its arguments. -/
abbrev Tool := List Raw → Work Unit

/-- The text of an error without its number. -/
def shortMessage : OsError → String
  | .code number => (osErrorTexts.lookup number).getD s!"Unknown error {number}"
  | error => error.message

/-- The error of an input that is not open. -/
def notOpen : OsError := .code 9

namespace Work

def write (stream : Nat) (text : Raw) : Work Unit :=
  modify fun job => { job with writes := (stream, text) :: job.writes }

def put (text : Raw) : Work Unit := write 1 text

def setCode (code : Nat) : Work Unit := modify ({ · with code := code })

/-- Ends the program. -/
def stop {α : Type} : Work α := throw ()

/-- How a program of a name speaks of itself: as it was called. -/
def title (name : String) : Work String := do
  let called := (← get).calledAs
  return if ('/' :: name.toList).isSuffixOf called then called.readable else name

/-- Complains, and goes on. The code is that of the last complaint. -/
def fail (name text : String) (code : Nat) : Work Unit := do
  let name ← title name
  write 2 (Raw.ofString s!"{name}: {text}\n")
  setCode code

/-- Complains, and ends the program. -/
def abort {α : Type} (name text : String) (code : Nat) : Work α := do
  fail name text code
  stop

/-- Complains about how the program is used, points to its help, and ends it. -/
def abortOfUse {α : Type} (name text : String) (code : Nat) : Work α := do
  fail name text code
  let name ← title name
  write 2 (Raw.ofString s!"Try '{name} --help' for more information.\n")
  stop

/-- Writes what was computed, with its code. -/
def giveOut (output : Output) : Work Unit := do
  if !output.stdout.isEmpty then write 1 output.stdout
  if !output.stderr.isEmpty then write 2 output.stderr
  setCode output.code

/-- Reads the options of a program. Where they are faulty, the program ends. -/
def readOptions (name : String) (code : Nat) (known : KnownOptions) (args : List Raw) :
    Work Options := do
  let options := known.read args
  match options.fault? with
  | some fault => abortOfUse name fault code
  | none => return options

/-- Takes all that is left of the input. -/
def takeInput : Work (Except OsError Raw) := do
  let job ← get
  if job.isInputOpen then
    set { job with stdin := [] }
    return .ok job.stdin
  else return .error notOpen

/-- What a file holds. Some names lead to the input. -/
def readFile (name : Raw) : Work (Except OsError Raw) := do
  match String.ofList name with
  | "/dev/null" => return .ok []
  | "/dev/stdin" | "/dev/fd/0" | "/proc/self/fd/0" => takeInput
  | path => return ((← get).files.readFile path).map Raw.ofBytes

/-- What an operand holds; a dash is the input. -/
def readOperand (operand : Raw) : Work (Except OsError Raw) :=
  if operand = ['-'] then takeInput else readFile operand

end Work

open Work

/-- The directories in which programs are kept. -/
def programDirectories : List Location := [["usr", "bin"], ["bin"]]

/-- Whether a path leads to a program. -/
def isProgram (files : FileSystem) (path : Path) : Bool :=
  match files.stat path, files.locate path with
  | .ok (.file _), .ok location => programDirectories.contains location.dropLast
  | _, _ => false

/-- Whether a name leads to the input or to nothing. -/
def isDevice (name : Raw) : Bool :=
  ["/dev/null", "/dev/stdin", "/dev/fd/0", "/proc/self/fd/0"].contains (String.ofList name)

/-- How a program says that it cannot read an operand. -/
def readFailure (name : String) (operand : Raw) (error : OsError) : String :=
  let text := shortMessage error
  if name = "head" then
    if error = .isADirectory then s!"error reading {operand.shellQuoted}: {text}"
    else s!"cannot open {operand.shellQuoted} for reading: {text}"
  else s!"{operand.quotedIfNeeded}: {text}"

/-- The operands, or the input if there are none. -/
def orInput (operands : List Raw) : List Raw := if operands.isEmpty then [['-']] else operands

/-- What all operands hold together. What cannot be read is complained about and left out. -/
def readOperands (name : String) (operands : List Raw) : Work Raw := do
  let contents : List (List Raw) ← (orInput operands).mapM fun operand => do
    match ← readOperand operand with
    | .ok content => return [content]
    | .error error =>
      fail name (readFailure name operand error) 1
      return []
  return contents.flatten.flatten

/-- The lines of a text, each with its newline. -/
def linesWithEnds (text : Raw) : List Raw :=
  let (done, current) := text.foldl (fun (done, current) c =>
    if c = '\n' then ((c :: current).reverse :: done, []) else (done, c :: current))
    (([], []) : List Raw × Raw)
  (if current.isEmpty then done else current.reverse :: done).reverse

/-- The lines of a text without their newlines. -/
def linesOf (text : Raw) : List Raw :=
  (linesWithEnds text).map fun line => if line.getLast? = some '\n' then line.dropLast else line

/-- The names in a directory, in the order of their bytes. -/
def namesIn (files : FileSystem) (location : Location) : List Raw :=
  let names := files.entries.filterMap fun entry =>
    if entry.1.dropLast = location && entry.1 ≠ location then
      entry.1.getLast?.map Raw.ofString else none
  names.mergeSort Raw.comesFirst

/-- The path of the directory in which a program runs. -/
def workingPath (files : FileSystem) : Raw :=
  Raw.ofString (Path.fromRoot files.workingDirectory)

end DiagramEditor.Tools

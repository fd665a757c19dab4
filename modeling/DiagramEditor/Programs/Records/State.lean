import DiagramEditor.Programs.Records.Fields
import DiagramEditor.Programs.Records.Format
import DiagramEditor.Programs.Records.Reader

/-! What a running script over records has: variables, the record with its fields, and what it
has written. -/
namespace DiagramEditor.Records

/-- A value of a script. What comes from an input is a number too if it looks like one. -/
inductive Value where
  | absent
  | number (value : Number)
  | text (content : Raw)
  | input (content : Raw) (number? : Option Number)
deriving Inhabited

namespace Value

def toNumber : Value → Number
  | absent => .zero
  | number value => value
  | text content => .ofRaw content
  | input content number? => number?.getD (.ofRaw content)

/-- The text of a value; that of a number which is not whole is as a format says. -/
def toRaw (format : Raw) : Value → Raw
  | absent => []
  | number value => value.toRaw format
  | text content | input content _ => content

/-- A value that comes from an input. -/
def ofInput (content : Raw) : Value := input content (Number.ofInput? content)

def isTrue : Value → Bool
  | absent => false
  | number value => !value.isZero
  | text content => !content.isEmpty
  | input content number? => match number? with
    | some value => !value.isZero
    | none => !content.isEmpty

/-- The number of a value that compares as one. -/
def comparable? : Value → Option Number
  | absent => some .zero
  | number value => some value
  | text _ => none
  | input _ number? => number?

/-- How two values compare: as numbers if both can, or else byte by byte. -/
def compare (format : Raw) (left right : Value) : Ordering :=
  match left.comparable?, right.comparable? with
  | some a, some b => a.compare b
  | _, _ =>
    let a := left.toRaw format
    let b := right.toRaw format
    if a = b then .eq else if Raw.comesFirst a b then .lt else .gt

def ofBool (value : Bool) : Value := number (if value then .one else .zero)

def ofNat (value : Nat) : Value := number (.ofNat value)

end Value

/-- The variables that a script starts with. -/
def firstVariables : List (Raw × Value) :=
  [("FS", [' ']), ("OFS", [' ']), ("ORS", ['\n']), ("CONVFMT", "%.6g".toList),
    ("OFMT", "%.6g".toList)].map fun (name, text) => (name.toList, .text text)

structure State where
  scalars : List (Raw × Value) := firstVariables
  record : Raw := []
  fields : Array Value := #[]
  count : Nat := 0
  /-- What was written, the newest first. -/
  output : List Raw := []
  code : Nat := 0

/-- Why a script does not go on with its next statement. -/
inductive Stop where
  | failed (message : String)
  | exited
  | nextRecord
  | left
  | wentOn

abbrev Run := ExceptT Stop (StateM State)

namespace Run

/-- Ends the script with a complaint. -/
def fail {α : Type} (message : String) : Run α := throw (.failed message)

/-- The regular expression of a text. -/
def compile (source : Raw) : Run Regex := do
  match Pattern.compile source with
  | .ok regex => return regex
  | .error fault =>
    fail s!"regular expression compile failed ({fault.message})\n{source.readable}"

def variableValue (name : Raw) : Run Value := do
  let state ← get
  match String.ofList name with
  | "NF" => return .ofNat state.fields.size
  | "NR" => return .ofNat state.count
  | _ => return (state.scalars.lookup name).getD .absent

/-- The text of a variable. -/
def textOf (name : String) : Run Raw :=
  return (← variableValue name.toList).toRaw "%.6g".toList

def toRaw (value : Value) : Run Raw := return value.toRaw (← textOf "CONVFMT")

def setVariable (name : Raw) (value : Value) : Run Unit :=
  modify fun state =>
    { state with scalars := (name, value) :: state.scalars.filter (·.1 ≠ name) }

/-- Begins a record, which is cut into fields. -/
def setRecord (text : Raw) : Run Unit := do
  match Separator.ofRaw (← textOf "FS") with
  | .ok separator =>
    let parts := (separator.split text).map Value.ofInput
    modify ({ · with record := text, fields := parts.toArray })
  | .error fault => fail s!"regular expression compile failed ({fault.message})"

def field (index : Nat) : Run Value := do
  let state ← get
  if index = 0 then return .ofInput state.record
  else return (state.fields[index - 1]?).getD (.text [])

/-- The greatest number of fields. -/
def maxFields : Nat := 2000000

/-- Sets a field, and puts the record together again. -/
def setField (index : Nat) (value : Value) : Run Unit := do
  if index = 0 then setRecord (← toRaw value)
  else if maxFields < index then fail "program limit exceeded: out of memory"
  else
    let fields := (← get).fields
    let filled := fields ++ Array.replicate (index - fields.size) (.text [])
    let fields := filled.setIfInBounds (index - 1) value
    let record := List.intercalate (← textOf "OFS") (← fields.toList.mapM toRaw)
    modify ({ · with record := record, fields := fields })

def print (text : Raw) : Run Unit :=
  modify fun state => { state with output := text :: state.output }

/-- Runs the round of a loop; false if the loop is left. -/
def round (body : Run Unit) : Run Bool := do
  let result ← (ExceptT.lift body.run : Run (Except Stop Unit))
  match result with
  | .ok () | .error .wentOn => return true
  | .error .left => return false
  | .error stop => throw stop

end Run
end DiagramEditor.Records

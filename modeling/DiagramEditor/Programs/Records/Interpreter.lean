import DiagramEditor.Programs.Records.State

/-! Running scripts over records. Every step takes from a bound on all steps, so that a script
that would not end is stopped. -/
namespace DiagramEditor.Records

open Run

/-- A place whose parts have been found out. -/
inductive Target where
  | scalar (name : Raw)
  | field (index : Nat)

def Run.read : Target → Run Value
  | .scalar name => variableValue name
  | .field index => field index

def Run.write : Target → Value → Run Unit
  | .scalar name, value => setVariable name value
  | .field index, value => setField index value

/-- The result of an operation on numbers. -/
def Operation.apply (operation : Operation) (left right : Number) : Number :=
  match operation with
  | .add => Number.combine (· + ·) left right
  | .subtract => Number.combine (· - ·) left right
  | .multiply => Number.combine (· * ·) left right
  | .divide => Number.combine (· / ·) left right
  | .remainder => Number.remainder left right
  | .power => Number.combine Float.pow left right

def Comparison.holds (comparison : Comparison) (ordering : Ordering) : Bool :=
  match comparison with
  | .less => ordering = .lt
  | .atMost => ordering ≠ .gt
  | .equal => ordering = .eq
  | .unequal => ordering ≠ .eq
  | .greater => ordering = .gt
  | .atLeast => ordering ≠ .lt

/-- The part of a text from a place on. Both numbers lose their fractions. Where the place is
before the first character, the count is greater by as much. -/
def substring (text : Raw) (start : Int) (count? : Option Int) : Raw :=
  let count := match count? with
    | none => (text.length : Int)
    | some count => if start < 1 then count - start else count
  (text.drop (max start 1 - 1).toNat).take count.toNat

/-- The arguments of a conversion. -/
def argumentOf (value : Value) : Run Argument := do
  let isNumber : Bool := match value with
    | .number _ => true
    | .input _ number? => number?.isSome
    | _ => false
  return { text := ← toRaw value, number := value.toNumber, isNumber := isNumber }

/-- The text of values as a format says. -/
def formatted (function : String) (values : List Value) : Run Raw := do
  let format ← toRaw (values.headD .absent)
  let (text, fault?) := Format.write format (← values.tail.mapM argumentOf)
  let shown := s!"{function}(\"{format.readable}\")"
  match fault? with
  | none => return text
  | some .missing => fail s!"not enough arguments passed to {shown}"
  | some (.improper position) => fail s!"improper conversion(number {position}) in {shown}"

/-- Calls a function that every script has. -/
def applyTo (function : Builtin) (values : List Value) : Run Value := do
  let first := values.headD .absent
  let text ← toRaw first
  match function with
  | .length => return .ofNat text.length
  | .substring =>
    let start := (values.getD 1 .absent).toNumber.toHalfWord
    return .text (substring text start (values[2]?.map fun value => value.toNumber.toHalfWord))
  | .index =>
    let wanted ← toRaw (values.getD 1 .absent)
    let place? := (List.range (text.length + 1)).find? fun place =>
      wanted.isPrefixOf (text.drop place)
    return .ofNat ((place?.map (· + 1)).getD 0)
  | .format => return .text (← formatted "sprintf" values)
  | .whole => return .number first.toNumber.truncated
  | .toLower => return .text (text.map Char.toLower)
  | .toUpper => return .text (text.map Char.toUpper)

mutual

/-- The value of an expression. -/
def evaluate : (fuel : Nat) → Expr → Run Value
  | 0, _ => throw .exited
  | fuel + 1, expr => do
    match expr with
    | .number value => return .number value
    | .text content => return .text content
    | .pattern source =>
      return .ofBool ((← compile source).search? (← get).record 0).isSome
    | .named _ | .field _ => read (← locate fuel expr)
    | .group body => evaluate fuel body
    | .assign operation? place value =>
      let target ← locate fuel place
      let value ← evaluate fuel value
      let result ← match operation? with
        | none => pure value
        | some operation => do
          pure (.number (operation.apply (← read target).toNumber value.toNumber))
      write target result
      return result
    | .step before amount place =>
      let target ← locate fuel place
      let old := (← read target).toNumber
      let changed := Number.combine (· + ·) old (.ofInt amount)
      write target (.number changed)
      return .number (if before then changed else old)
    | .choice condition yes no =>
      if (← evaluate fuel condition).isTrue then evaluate fuel yes else evaluate fuel no
    | .both first second =>
      if (← evaluate fuel first).isTrue then
        return .ofBool (← evaluate fuel second).isTrue
      else return .ofBool false
    | .either first second =>
      if (← evaluate fuel first).isTrue then return .ofBool true
      else return .ofBool (← evaluate fuel second).isTrue
    | .negate body => return .ofBool !(← evaluate fuel body).isTrue
    | .sign negative body =>
      let value := (← evaluate fuel body).toNumber
      return .number (if negative then value.negated else value)
    | .calculate operation left right =>
      let left ← evaluate fuel left
      let right ← evaluate fuel right
      return .number (operation.apply left.toNumber right.toNumber)
    | .concatenate left right =>
      let left ← toRaw (← evaluate fuel left)
      let right ← toRaw (← evaluate fuel right)
      return .text (left ++ right)
    | .compare comparison left right =>
      let left ← evaluate fuel left
      let right ← evaluate fuel right
      return .ofBool (comparison.holds (left.compare (← textOf "CONVFMT") right))
    | .isFound negated text pattern =>
      let text ← toRaw (← evaluate fuel text)
      let regex ← match pattern with
        | .pattern source => compile source
        | _ => do compile (← toRaw (← evaluate fuel pattern))
      return .ofBool ((regex.search? text 0).isSome != negated)
    | .apply .length [] => return .ofNat (← get).record.length
    | .apply function arguments => applyTo function (← evaluateAll fuel arguments)

def evaluateAll : (fuel : Nat) → List Expr → Run (List Value)
  | 0, _ => throw .exited
  | _, [] => return []
  | fuel + 1, first :: more => do
    let value ← evaluate fuel first
    return value :: (← evaluateAll fuel more)

/-- Finds out what a place is. -/
def locate : (fuel : Nat) → Expr → Run Target
  | 0, _ => throw .exited
  | fuel + 1, place => do
    match place with
    | .named name => return .scalar name
    | .field index =>
      match (← evaluate fuel index).toNumber.whole? with
      | some index =>
        if 0 ≤ index then return .field index.toNat
        else fail s!"negative field index ${index}"
      | none => fail "field index is too great"
    | _ => throw .exited

end

mutual

/-- Runs a statement. -/
def execute : (fuel : Nat) → Statement → Run Unit
  | 0, _ => throw .exited
  | fuel + 1, statement => do
    match statement with
    | .nothing => return
    | .evaluate body =>
      let _ ← evaluate fuel body
    | .print items =>
      let values ← if items.isEmpty then do pure [← field 0] else evaluateAll fuel items
      let format ← textOf "OFMT"
      print (List.intercalate (← textOf "OFS") (values.map (Value.toRaw format)))
      print (← textOf "ORS")
    | .format items => print (← formatted "printf" (← evaluateAll fuel items))
    | .sequence first second =>
      execute fuel first
      execute fuel second
    | .choice condition yes no =>
      if (← evaluate fuel condition).isTrue then execute fuel yes else execute fuel no
    | .loop condition? step body => rounds fuel condition? step body
    | .nextRecord => throw .nextRecord
    | .exit code? =>
      match code? with
      | some code =>
        let value := (← evaluate fuel code).toNumber.toWord
        modify ({ · with code := (value % 256).toNat })
      | none => pure ()
      throw .exited
    | .leave => throw .left
    | .goOn => throw .wentOn

/-- Runs the rounds of a loop. -/
def rounds : (fuel : Nat) → Option Expr → (step body : Statement) → Run Unit
  | 0, _, _, _ => throw .exited
  | fuel + 1, condition?, step, body => do
    let goesOn ← match condition? with
      | some condition => do pure (← evaluate fuel condition).isTrue
      | none => pure true
    if goesOn then
      if ← round (execute fuel body) then
        execute fuel step
        rounds fuel condition? step body

end

/-- Runs the rules for a record. -/
def runRules (fuel : Nat) (rules : List Rule) (record : Raw) : Run Unit := do
  modify fun state => { state with count := state.count + 1 }
  setRecord record
  let body : Run Unit := rules.forM fun rule => do
    let selects ← match rule.condition? with
      | some condition => do pure (← evaluate fuel condition).isTrue
      | none => pure true
    if selects then execute fuel rule.action
  let result ← (ExceptT.lift body.run : Run (Except Stop Unit))
  match result with
  | .ok () | .error .nextRecord => return
  | .error stop => throw stop

/-- Runs a script from its first statement to the last. -/
def Script.run (script : Script) (fuel : Nat) (records : List Raw) : Run Unit := do
  let settled (body : Run Unit) : Run Unit := do
    let result ← (ExceptT.lift body.run : Run (Except Stop Unit))
    match result with
    | .error (.failed message) => throw (.failed message)
    | _ => return
  settled do
    script.before.forM (execute fuel)
    records.forM (runRules fuel script.rules)
  settled (script.behind.forM (execute fuel))

end DiagramEditor.Records

import DiagramEditor.Programs.Records.Interpreter
import DiagramEditor.Programs.Tools.Basic

/-! The program that runs scripts over records. Its arguments give the separator of fields, the
first values of variables, the script, and the operands. -/
namespace DiagramEditor.Records

open Run Tools

/-- What the arguments of the program say. -/
structure Invocation where
  separator? : Option Raw := none
  settings : List Raw := []
  operands : List Raw := []
deriving Repr

/-- Reads the arguments up to the first that is no option. -/
def Invocation.read : (fuel : Nat) → Invocation → List Raw → Except String Invocation
  | 0, invocation, _ | _, invocation, [] => .ok invocation
  | fuel + 1, invocation, argument :: rest =>
    let valued (letter : Char) (use : Raw → Invocation) : Except String Invocation :=
      match argument.drop 2, rest with
      | [], value :: behind => read fuel (use value) behind
      | [], [] => .error s!"option -{letter} lacks argument"
      | value, _ => read fuel (use value) rest
    match argument with
    | ['-', '-'] => .ok { invocation with operands := rest }
    | '-' :: 'F' :: _ =>
      valued 'F' fun value => { invocation with separator? := some value }
    | '-' :: 'v' :: _ =>
      valued 'v' fun value => { invocation with settings := invocation.settings ++ [value] }
    | '-' :: _ :: _ => .error s!"not an option: {argument.readable}"
    | _ => .ok { invocation with operands := argument :: rest }

/-- Gives a script what the options set. -/
def prepare (invocation : Invocation) : Run Unit := do
  let set (name source : Raw) : Run Unit :=
    setVariable name (.ofInput (unescaped (source.length + 1) source))
  invocation.separator?.toList.forM (set "FS".toList)
  invocation.settings.forM fun setting => do
    let name := setting.takeWhile isNamePart
    match setting.drop name.length with
    | '=' :: value => set name value
    | _ => fail s!"improper assignment: -v {setting.readable}"

/-- Bounds the steps of a script, the rounds of its loops included. -/
def maxSteps : Nat := 100000000

def awk : Tool := fun args => do
  match Invocation.read (args.length + 1) {} args with
  | .error message => Work.abort "awk" message 2
  | .ok invocation =>
    match invocation.operands with
    | [] => return
    | source :: operands =>
      match Script.parse source with
      | .error fault => Work.abort "awk" fault.message 2
      | .ok script =>
        let reads := !script.rules.isEmpty || !script.behind.isEmpty
        let text ← if reads then readOperands "awk" operands else pure []
        let body : Run Unit := do
          prepare invocation
          script.run maxSteps (linesOf text)
        let (result, state) := body.run.run {}
        Work.put state.output.reverse.flatten
        match result with
        | .error (.failed message) => Work.abort "awk" message 2
        | _ => Work.setCode state.code

end DiagramEditor.Records

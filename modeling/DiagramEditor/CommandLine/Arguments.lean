import DiagramEditor.Host.Path

/-! The arguments of the command line: a command, then at most one file and a flag, in any
order. A single dash stands for standard input. The first argument that fits nowhere
is the error; what does not go together is found out at the end. -/
namespace DiagramEditor.CommandLine

inductive Command where
  | format | highlight | render
deriving DecidableEq, Repr, Inhabited

structure Invocation where
  command : Command
  /-- No file means standard input. -/
  file? : Option Path
  write : Bool
deriving DecidableEq, Repr

inductive UsageError where
  | missingCommand
  | unknownCommand (name : String)
  | unknownOption (name : String)
  | unexpectedArgument (argument : String)
  | writeWithoutFormat
  | writeWithoutFile
deriving DecidableEq, Repr

def UsageError.message : UsageError → String
  | missingCommand => "Missing command"
  | unknownCommand name => s!"Unknown command '{name}'"
  | unknownOption name => s!"Unknown option '{name}'"
  | unexpectedArgument argument => s!"Unexpected argument '{argument}'"
  | writeWithoutFormat => "--write only applies to format"
  | writeWithoutFile => "--write needs a file, not stdin"

def Command.ofName? : String → Option Command
  | "format" => some .format
  | "highlight" => some .highlight
  | "render" => some .render
  | _ => none

/-- What the arguments behind the command have said so far. -/
structure Operands where
  /-- The input: none yet, standard input, or a file. -/
  input? : Option (Option Path) := none
  write : Bool := false
deriving DecidableEq, Repr

/-- The operands with one more argument. -/
def Operands.add (operands : Operands) (argument : String) : Except UsageError Operands :=
  if argument = "--write" || argument = "-w" then .ok { operands with write := true }
  else if argument = "-" && operands.input?.isNone then .ok { operands with input? := some none }
  else if argument.toList.head? = some '-' && argument ≠ "-" then .error (.unknownOption argument)
  else if operands.input?.isNone then .ok { operands with input? := some (some argument) }
  else .error (.unexpectedArgument argument)

/-- Reads the arguments without the program's name. -/
def parseArguments : List String → Except UsageError Invocation
  | [] => .error .missingCommand
  | name :: rest =>
    match Command.ofName? name with
    | none => .error (.unknownCommand name)
    | some command =>
      match rest.foldlM Operands.add {} with
      | .error error => .error error
      | .ok operands =>
        let file? := operands.input?.join
        if operands.write && command ≠ .format then .error .writeWithoutFormat
        else if operands.write && file?.isNone then .error .writeWithoutFile
        else .ok ⟨command, file?, operands.write⟩

end DiagramEditor.CommandLine

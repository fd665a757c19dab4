import DiagramEditor.Host.Environment
import DiagramEditor.Host.Program
import DiagramEditor.Programs.Shell.Interpreter

/-! The programs that every machine has: a shell and a few small tools. Any other name leads to
no program, and any other path to nothing that can be run. -/
namespace DiagramEditor.Toolbox

/-- Bounds the steps of a program, loops included. -/
def maxSteps : Nat := 60000

/-- The variables that an environment gives to a program. -/
def variablesOf (environment : Environment) : List (Raw × Shell.Variable) :=
  environment.bindings.map fun (name, value) =>
    (Raw.ofString name, { value? := some (Raw.ofString value), exported := true })

/-- The directories in which programs are looked for. -/
def searchPath (environment : Environment) : Raw :=
  Raw.ofString ((environment.get? "PATH").getD "/bin:/usr/bin")

/-- The greatest size of an argument with the byte that ends it. -/
def maxArgumentSize : Nat := 0x20000

/-- The greatest size of all that a program is given. -/
def maxStartSize : Nat := 0x200000

/-- Whether a program can be given a command and variables: its path, the arguments and the
bindings are stored with a byte behind each, and the latter with an address each. -/
def fits (path : Raw) (command : List Raw) (environment : Environment) : Bool :=
  let bindings := environment.bindings.map fun (name, value) =>
    Raw.ofString name ++ '=' :: Raw.ofString value
  let given := command ++ bindings
  let size := given.foldl (fun size text => size + text.length + 9) (path.length + 1)
  given.all (·.length < maxArgumentSize) && size ≤ maxStartSize

/-- Runs a command that was found. -/
def start (files : FileSystem) (environment : Environment) (command : List Raw) (stdin : Bytes) :
    ProgramResult :=
  let state : Shell.State :=
    { frame := { name := command.headD [], bindings := variablesOf environment }
      files := Installed.addTo files
      stdin := Raw.ofBytes stdin }
  let (result, behind) := (Shell.runProgram maxSteps true command).run.run state
  let left := Installed.takeFrom files behind.files
  { status := match result with
      | .ok () => .exited behind.code
      | .error (.exited code) => .exited code
      | .error (.killed signal) => .signaled signal false
      | .error _ => .exited behind.code
    stdout := (Shell.Run.channelText behind 0).toBytes
    stderr := (Shell.Run.channelText behind 1).toBytes
    files? := if left = files then none else some left }

/-- Starts a program of the toolbox. -/
def programs (files : FileSystem) (environment : Environment) : Programs :=
  fun program args stdin =>
    let command := (program :: args).map Raw.ofString
    if command.any (·.contains '\x00') then .error .nulInArgument
    else
      match Installed.find (Installed.addTo files) (searchPath environment) (command.headD []) with
      | .error error => .error error
      | .ok name =>
        if fits ("/usr/bin/".toList ++ name) command environment then
          .ok (start files environment command stdin)
        else .error .argumentsTooLong

end DiagramEditor.Toolbox

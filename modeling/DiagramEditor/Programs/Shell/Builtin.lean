import DiagramEditor.Programs.Shell.Fields
import DiagramEditor.Programs.Shell.State
import DiagramEditor.Programs.Tools.Test
import DiagramEditor.Programs.Tools.Writers

/-! The commands of the shell itself that run no other command. The special ones among them
end the script where they are misused; the others only fail. -/
namespace DiagramEditor.Shell

open Run

abbrev Builtin := List Raw → Run Unit

namespace Builtin

def succeed : Run Unit := setCode 0

def answer (holds : Bool) : Run Unit := setCode (if holds then 0 else 1)

/-- The number that a text is, if it is one and fits into 31 bits. -/
def digits? (text : Raw) : Option Nat :=
  let value := Printf.digitsValue 10 text
  if !text.isEmpty && text.all Char.isDigit && value < 0x80000000 then some value else none

/-- Writes what a tool has written, and fails as it did. -/
def giveOut (output : Tools.Output) : Run Unit := do
  write 1 output.stdout
  write 2 output.stderr
  setCode output.code

def echo : Builtin := fun args => do
  if ← isClosed 1 then fail "echo: echo: I/O error" 1
  else giveOut (Tools.echoEscaped args)

/-- How the `printf` of the shell words its complaints. -/
def printfStyle (name : String) (line : Nat) : Tools.PrintfStyle :=
  let say (text : String) : String := s!"{name}: {line}: printf: {text}"
  { manner := .shell
    usage := say "usage: printf format [arg ...]"
    message fault := say (match fault with
      | .notNumber argument => s!"{argument.readable}: expected numeric value"
      | .notWhole argument => s!"{argument.readable}: not completely converted"
      | .outOfRange argument => s!"{argument.readable}: Numerical result out of range"
      | .badDirective directive => s!"{directive.readable}: invalid directive"
      | .noConversion => "missing format character"
      | _ => "")
    failureCode := 2 }

def printf : Builtin := fun args => do
  let state ← get
  let output := Tools.printf (printfStyle state.frame.name.readable state.line) args
  if (← isClosed 1) && !output.stdout.isEmpty then fail "printf: printf: I/O error" 1
  else giveOut output

def test (name : String) : Builtin := fun args => do
  match Tools.Test.holds (← get).files args with
  | .ok holds => answer holds
  | .error text => fail s!"{name}: {text}" 2

def bracketTest : Builtin := fun args => do
  if args.getLast? = some [']'] then test "[" args.dropLast
  else fail "[: missing ]" 2

/-- The number that an argument is: blanks may stand around it and a plus in front. -/
def numberOf (name : String) (argument : Raw) : Run Nat := do
  let body := argument.dropWhile Printf.isBlank
  let digits := (if body.head? = some '+' then body.tail else body).reverse
  match digits? (digits.dropWhile Printf.isBlank).reverse with
  | some number => return number
  | none => abort s!"{name}: Illegal number: {argument.readable}"

/-- The code that an argument of `exit` and `return` names. -/
def codeOf (name : String) : List Raw → Run Nat
  | [] => return (← get).code
  | argument :: _ => numberOf name argument

def exit : Builtin := fun args => do throw (.exited ((← codeOf "exit" args) % 256))

def leave : Builtin := fun args => do throw (.returned (← codeOf "return" args))

/-- Leaves loops, or goes on with them, as many as the argument says. -/
def loopControl (name : String) (stop : Nat → Stop) : Builtin := fun args => do
  let levels ← match args with
    | [] => pure 1
    | argument :: _ => numberOf name argument
  if levels = 0 then abort s!"{name}: Illegal number: {(args.headD []).readable}"
  let loops := (← get).frame.loops
  if loops = 0 then succeed else
    setCode 0
    throw (stop (min levels loops))

def shift : Builtin := fun args => do
  let count ← match args with
    | [] => pure 1
    | argument :: _ => numberOf "shift" argument
  if (← get).frame.arguments.length < count then abort "shift: can't shift that many"
  else
    modifyFrame fun frame => { frame with arguments := frame.arguments.drop count }
    succeed

/-- The letters of the options that a shell takes. -/
def optionLetters : List Char := "aefnsuvx".toList

/-- Sets or takes away options by their letters. `about` stands in front of a complaint. -/
def switchAll (about : String) (on : Bool) (letters : List Char) : Run Unit :=
  letters.forM fun letter => do
    if optionLetters.contains letter then
      modifyFrame fun frame =>
        let others := frame.options.filter (· ≠ letter)
        { frame with options := if on then letter :: others else others }
    else abort s!"{about}Illegal option -{letter}"

/-- Sets options, and the arguments to what stands behind them. -/
def set : Builtin
  | [] => succeed
  | ['-', '-'] :: rest => setArguments rest
  | ('-' :: letters) :: rest => do
    switchAll "set: " true letters
    set rest
  | ('+' :: letters) :: rest => do
    switchAll "set: " false letters
    set rest
  | arguments => setArguments arguments
where
  setArguments (arguments : List Raw) : Run Unit := do
    modifyFrame ({ · with arguments := arguments })
    succeed

/-- Gives names a mark, and a value where one stands behind an equals sign. -/
def declare (name : String) (mark : Variable → Variable) : Builtin := fun args => do
  (args.filter (· ≠ ['-', 'p'])).forM fun (argument : Raw) => do
    let target := argument.takeWhile (· ≠ '=')
    if !isName target then abort s!"{name}: {argument.readable}: bad variable name"
    else
      if target.length < argument.length then assign target (argument.drop (target.length + 1))
      putVariable target (some (mark ((← findVariable? target).getD {})))
  succeed

/-- Makes names variables of the function that is running. -/
def localNames : Builtin := fun args => do
  if (← get).frame.calls = 0 then abort "local: not in a function"
  else
    args.forM fun argument => do
      let name := argument.takeWhile (· ≠ '=')
      if !isName name then abort s!"local: {argument.readable}: bad variable name"
      else
        let before ← findVariable? name
        if !(← get).frame.hidden.any (·.1 = name) then
          modifyFrame fun frame => { frame with hidden := (name, before) :: frame.hidden }
        if name.length < argument.length then assign name (argument.drop (name.length + 1))
    succeed

def unset : Builtin := fun args => do
  let functions := args.head? = some ['-', 'f']
  let names := args.filter fun name => name ≠ ['-', 'f'] && name ≠ ['-', 'v']
  names.forM fun (name : Raw) => do
    if !isName name then abort s!"unset: {name.readable}: bad variable name"
    else if functions then
      modifyFrame fun frame => { frame with functions := frame.functions.filter (·.1 ≠ name) }
    else if (← findVariable? name).any (·.readOnly) then
      abort s!"unset: {name.readable}: is read only"
    else putVariable name none
  succeed

/-- A line of the input, with what is left behind it. A backslash takes its meaning from the
character behind it, unless `raw`; before the end of the line it joins the next one. -/
def readLine (raw : Bool) (input : Raw) : List Item × Raw × Bool :=
  go input false []
where
  go : Raw → (escaped : Bool) → List Item → List Item × Raw × Bool
    | [], _, done => (done.reverse, [], false)
    | c :: more, true, done =>
      go more false (if c = '\n' then done else .char ⟨c, true⟩ false :: done)
    | c :: more, false, done =>
      if c = '\n' then (done.reverse, more, true)
      else if c = '\\' && !raw then go more true done
      else go more false (if c = '\x00' then done else .char ⟨c, true⟩ true :: done)

def read : Builtin := fun args => do
  let isOption (argument : Raw) : Bool := argument.head? = some '-' && 1 < argument.length
  let given := (args.takeWhile isOption).flatMap List.tail
  let rest := args.dropWhile isOption
  let names := if given.contains 'p' then rest.tail else rest
  if names.isEmpty then fail "read: arg count" 2
  else
    match names.find? (!isName ·) with
    | some name => fail s!"read: {name.readable}: bad variable name" 2
    | none =>
      if given.contains 'p' then write 2 (rest.headD [])
      let (items, left, ended) := readLine (given.contains 'r') (← get).stdin
      modify ({ · with stdin := left })
      let fields := readFields (← separators) names.length items
      (names.zip fields).forM fun (name, field) => assign name field
      answer ended

def cd : Builtin := fun args => do
  let home := (← value? "HOME".toList).getD []
  let before := (← value? "PWD".toList).getD []
  let target ← match args.filter fun argument => argument ≠ ['-', 'P'] && argument ≠ ['-', 'L'] with
    | [] => pure home
    | ['-'] :: _ => pure ((← value? "OLDPWD".toList).getD [])
    | path :: _ => pure path
  let files := (← get).files
  match files.isDirectory target.readable, files.locate target.readable with
  | true, .ok location =>
    modify fun state => { state with files := { state.files with workingDirectory := location } }
    let path := Tools.workingPath (← get).files
    if args.contains ['-'] then write 1 (path ++ ['\n'])
    assign "OLDPWD".toList before
    assign "PWD".toList path
    ["OLDPWD".toList, "PWD".toList].forM fun name => do
      putVariable name (some { (← findVariable? name).getD {} with exported := true })
    succeed
  | _, _ => fail s!"cd: can't cd to {target.readable}" 2

def pwd : Builtin := fun _ => do
  write 1 (Tools.workingPath (← get).files ++ ['\n'])
  succeed

/-- The signals that end a program by themselves. -/
def endsProgram (signal : Nat) : Bool :=
  0 < signal && signal < 65 && !([17, 18, 19, 20, 21, 22, 23, 28].contains signal)

/-- The name of a signal. -/
def signalName (signal : Nat) : String :=
  if signal = 34 then "RTMIN"
  else if 34 < signal && signal < 50 then s!"RTMIN+{signal - 34}"
  else if 50 ≤ signal && signal < 64 then s!"RTMAX-{64 - signal}"
  else if signal = 64 then "RTMAX"
  else
    match if signal = 16 then none else signalNames[signal - 1]? with
    | some name => String.ofList (name.toList.drop 3)
    | none => toString signal

/-- The signal of a number or a name. -/
def signalOf? (name : Raw) : Option Nat :=
  if !name.isEmpty && name.all Char.isDigit then (digits? name).filter (· < 65)
  else
    (List.range 65).find? fun signal =>
      1 ≤ signal && (signalName signal).toList = name.map Char.toUpper

/-- A signal comes in: it ends the script, or it is ignored. -/
def receive (signal : Nat) : Run Unit :=
  if endsProgram signal then throw (.killed signal) else succeed

def killUsage : String := "kill: Usage: kill [-s sigspec | -signum | -sigspec] [pid]..."

/-- Sends a signal to processes. There is none but the shell itself. -/
def send (signal : Nat) (targets : List Raw) : Run Unit := do
  succeed
  targets.forM fun target => do
    let digits : Raw := if target.head? = some '-' then target.tail else target
    match digits? digits with
    | none => fail s!"kill: Illegal number: {digits.readable}" 2
    | some number =>
      let state ← get
      if digits = target && number = state.frame.processNumber then receive signal
      else fail "kill: No such process\n" 1

def kill : Builtin := fun args => do
  let sendTo (signal : Nat) (targets : List Raw) : Run Unit :=
    if targets.isEmpty then fail killUsage 2 else send signal targets
  let sendNamed (name : Raw) (targets : List Raw) : Run Unit :=
    match signalOf? name with
    | some signal => sendTo signal targets
    | none => fail s!"kill: invalid signal number or name: {name.readable}" 2
  match args with
  | ['-', '-'] :: targets => sendTo 15 targets
  | ('-' :: c :: more) :: rest =>
    match signalOf? (c :: more), c, more, rest with
    | some signal, _, _, targets => sendTo signal targets
    | none, 's', [], name :: targets => sendNamed name targets
    | none, 's', [], [] => fail "kill: No arg for -s option" 2
    | none, 's', name, targets => sendNamed name targets
    | none, _, _, _ => fail s!"kill: Illegal option -{c}" 2
  | targets => sendTo 15 targets

/-- The commands whose misuse ends the script. -/
def special? (name : Raw) : Option Builtin :=
  match String.ofList name with
  | ":" => some fun _ => succeed
  | "break" => some (loopControl "break" .broken)
  | "continue" => some (loopControl "continue" .continued)
  | "exit" => some exit
  | "export" => some (declare "export" ({ · with exported := true }))
  | "local" => some localNames
  | "readonly" => some (declare "readonly" ({ · with readOnly := true }))
  | "return" => some leave
  | "set" => some set
  | "shift" => some shift
  | "unset" => some unset
  | _ => none

/-- The other commands of the shell that run no command. -/
def regular? (name : Raw) : Option Builtin :=
  match String.ofList name with
  | "true" => some fun _ => succeed
  | "false" => some fun _ => setCode 1
  | "echo" => some echo
  | "printf" => some printf
  | "test" => some (test "test")
  | "[" => some bracketTest
  | "read" => some read
  | "cd" => some cd
  | "pwd" => some pwd
  | "kill" => some kill
  | "wait" => some fun _ => succeed
  | _ => none

end Builtin
end DiagramEditor.Shell

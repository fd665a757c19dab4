import DiagramEditor.Programs.Installed
import DiagramEditor.Programs.Shell.Arithmetic
import DiagramEditor.Programs.Shell.Builtin
import DiagramEditor.Programs.Shell.Reader

/-! Running scripts. Words are expanded, redirections and assignments carried out, and then a
command of the shell, a function or a program runs. A subshell leaves behind what it has
written and read, but nothing of what it has set. Every step takes from a bound on all
steps, so a script that would not end is stopped. -/
namespace DiagramEditor.Shell

open Run

/-- What a shell says when a program was ended by a signal; it is silent about two. -/
def signalReport (signal : Nat) : Option String :=
  match signal with
  | 1 => some "Hangup"
  | 2 | 13 => none
  | 3 => some "Quit"
  | 4 => some "Illegal instruction"
  | 5 => some "Trace/breakpoint trap"
  | 6 => some "Aborted"
  | 7 => some "Bus error"
  | 8 => some "Floating point exception"
  | 9 => some "Killed"
  | 10 => some "User defined signal 1"
  | 11 => some "Segmentation fault"
  | 12 => some "User defined signal 2"
  | 14 => some "Alarm clock"
  | 15 => some "Terminated"
  | 16 => some "Stack fault"
  | 24 => some "CPU time limit exceeded"
  | 25 => some "File size limit exceeded"
  | 26 => some "Virtual timer expired"
  | 27 => some "Profiling timer expired"
  | 29 => some "I/O possible"
  | 30 => some "Power failure"
  | 31 => some "Bad system call"
  | _ => some s!"Real-time signal {signal - 34}"

def dropTrailingNewlines (text : Raw) : Raw := (text.reverse.dropWhile (· = '\n')).reverse

/-- The text of a failure to open a file. -/
def openFailure (name : Raw) (creating : Bool) (error : OsError) : String :=
  let reason :=
    if error = .noSuchFile || error = .notADirectory then
      if creating then "Directory nonexistent" else "No such file"
    else Tools.shortMessage error
  let action := if creating then "create" else "open"
  s!"cannot {action} {name.readable}: {reason}"

/-- The value of a parameter with a name of its own kind. -/
def specialValue? (state : State) (name : Raw) : Option Raw :=
  let frame := state.frame
  match name with
  | ['?'] => some (Nat.toDigits 10 state.code)
  | ['$'] => some (Nat.toDigits 10 frame.processNumber)
  | ['#'] => some (Nat.toDigits 10 frame.arguments.length)
  | ['-'] => some frame.options
  | ['0'] => some frame.name
  | _ => frame.arguments[Printf.digitsValue 10 name - 1]?

/-- The value of a parameter, if it is set. -/
def parameterValue? (name : Raw) : Run (Option Raw) := do
  if isName name then value? name else return specialValue? (← get) name

/-- Gives an input to a stream. -/
def feed (stream : Nat) (text : Raw) : Run Unit := do
  if stream = 0 then
    modify ({ · with stdin := text })
    modifyFrame fun frame => { frame with sinks := frame.sinks.filter (·.1 ≠ 0) }
  else
    modifyFrame fun frame =>
      { frame with inputs := (stream, text) :: frame.inputs.filter (·.1 ≠ stream) }

/-- Makes a stream lead to where another one leads. -/
def duplicate (stream : Nat) (target : Raw) : Run Bool := do
  match target with
  | ['-'] =>
    if stream = 0 then feed 0 []
    point stream .closed
    return true
  | _ =>
    match Builtin.digits? target with
    | none => abort "Bad fd number"
    | some number =>
      let frame := (← get).frame
      match frame.inputs.lookup number, frame.sinks.lookup number with
      | some text, _ =>
        feed stream text
        return true
      | none, some (.closed) | none, none =>
        if number = 0 then return true
        else
          complain s!"{number}: Bad file descriptor"
          return false
      | none, some sink =>
        point stream sink
        return true

/-- Runs the body of a loop; false if the loop is left. -/
def oneRound (body : Run Unit) : Run Bool := do
  let result ← (ExceptT.lift body.run : Run (Except Stop Unit))
  match result with
  | .ok () => return true
  | .error (.broken levels) =>
    if levels ≤ 1 then return false else throw (.broken (levels - 1))
  | .error (.continued levels) =>
    if levels ≤ 1 then return true else throw (.continued (levels - 1))
  | .error stop => throw stop

/-- Runs a body inside one more loop. -/
def insideLoop (body : Run Unit) : Run Unit := do
  let loops := (← get).frame.loops
  modifyFrame ({ · with loops := loops + 1 })
  andAlways body (modifyFrame ({ · with loops := loops }))

/-- Runs a body whose failure is looked at. -/
def whileTested (body : Run Unit) : Run Unit := do
  let tested := (← get).frame.tested
  modifyFrame ({ · with tested := true })
  andAlways body (modifyFrame ({ · with tested := tested }))

/-- Ends the script where a failure has to. -/
def checkFailure : Run Unit := do
  let state ← get
  if state.code ≠ 0 && state.frame.options.contains 'e' && !state.frame.tested then
    throw (.exited state.code)

/-- Runs a body and takes the code with which it ends as its own. -/
def settle (body : Run Unit) : Run Unit := do
  let result ← (ExceptT.lift body.run : Run (Except Stop Unit))
  match result with
  | .error (.exited code) | .error (.returned code) => setCode (code % 256)
  | .error (.killed signal) => throw (.killed signal)
  | _ => modify fun state => { state with code := state.code % 256 }

/-- Runs a body in a subshell. -/
def subshell (body : Run Unit) : Run Unit := do
  let before ← get
  modifyFrame ({ · with loops := 0 })
  settle body
  modify fun state =>
    { state with
      frame := before.frame, line := before.line
      files := { state.files with workingDirectory := before.files.workingDirectory } }

/-- The number of functions that may run inside each other. -/
def maxCalls : Nat := 1000

/-- Takes the options that a shell is started with, and gives back whether the script is an
argument, and the operands. -/
def takeOptions : List Raw → Run (Bool × List Raw)
  | ['-'] :: rest | ['-', '-'] :: rest => return (false, rest)
  | (sign :: letters) :: rest => do
    if sign = '-' || sign = '+' then
      Builtin.switchAll "" (sign = '-') (letters.filter fun c => c ≠ 'c' && c ≠ 'l')
      let (isScript, operands) ← takeOptions rest
      return (isScript || letters.contains 'c', operands)
    else return (false, (sign :: letters) :: rest)
  | operands => return (false, operands)

/-- The value of an expression; what it sets is set. -/
def calculate (text : Raw) : Run Raw := do
  let values := (← get).frame.bindings.filterMap fun (name, found) =>
    found.value?.map (name, ·)
  let result : Except ArithmeticError (Int64 × List (Raw × Raw)) := do
    (Arithmetic.evaluate (← Arithmetic.parse text)).run values
  match result with
  | .ok (value, changed) =>
    (changed.take (changed.length - values.length)).reverse.forM fun (name, value) =>
      assign name value
    return Arithmetic.text value
  | .error error =>
    let about (reason : String) : String :=
      s!"arithmetic expression: {reason}: {quotedName text.readable}"
    match error with
    | .expecting what => abort (about s!"expecting {what}")
    | .divisionByZero => abort (about "division by zero")
    | .overflow => throw (.killed 8)
    | .illegalNumber number => abort s!"Illegal number: {number.readable}"

/-- The program that a command names, or why there is none. -/
def findProgram? (name : Raw) : Run (Except OsError Raw) := do
  let searchPath := (← value? "PATH".toList).getD []
  return Installed.find (← get).files searchPath name

/-- The program that a command names, or what is wrong with it and the code for that. -/
def findProgram (name : Raw) : Run (Except (String × Nat) Raw) := do
  match ← findProgram? name with
  | .ok program => return .ok program
  | .error .permissionDenied => return .error (s!"{name.readable}: Permission denied", 126)
  | .error .nameTooLong => return .error (s!"{name.readable}: File name too long", 126)
  | .error _ => return .error (s!"{name.readable}: not found", 127)

/-- Carries out the work of a small program on the input and the files of the script. -/
def carryOut (name : Raw) (work : Tools.Work Unit) : Run Unit := do
  let state ← get
  let (_, job) := work.run.run
    { stdin := state.stdin, isInputOpen := (← sinkOf? 0) ≠ some .closed
      files := state.files, calledAs := name }
  set { state with stdin := job.stdin, files := job.files }
  job.writes.reverse.forM fun (stream, text) => write stream text
  setCode job.code
  if (← isClosed 1) && job.writes.any (fun (stream, text) => stream = 1 && !text.isEmpty) then
    let what := if name = "cat".toList then "standard output" else "write error"
    write 2 (Raw.ofString s!"{name.readable}: {what}: Bad file descriptor\n")
    setCode 1

mutual

/-- Expands pieces. Unquoted text of the script is cut at separators only if `splits`. -/
def expand : (fuel : Nat) → (splits : Bool) → Word → Run (List Item)
  | 0, _, _ => throw (.killed 9)
  | _, _, [] => return []
  | fuel + 1, splits, piece :: more => do
    let items ← match piece with
      | .text quoted content => pure (Item.ofText quoted (splits && !quoted) content)
      | .parameter quoted name use => expandParameter fuel quoted name use
      | .output quoted script => do
        let text := dropTrailingNewlines ((← capture fuel script).filter (· ≠ '\x00'))
        pure (Item.ofText quoted (!quoted) text)
      | .arithmetic quoted expression => do
        let text ← expandText fuel expression
        pure (Item.ofText quoted (!quoted) (← calculate text))
      | .badSubstitution => abort "Bad substitution"
    return items ++ (← expand fuel splits more)

/-- Expands a word whose tilde at the start is the home directory. -/
def expandWord : (fuel : Nat) → Word → Run (List Item)
  | 0, _ => throw (.killed 9)
  | fuel + 1, word => do
    match word with
    | .text false ('~' :: content) :: more =>
      let user := content.takeWhile (· ≠ '/')
      let home? ← if user.isEmpty then value? "HOME".toList
        else pure (if user = "root".toList then some "/root".toList else none)
      match home?, user.length < content.length || more.isEmpty with
      | some home, true =>
        return Item.ofText true false home ++
          (← expand fuel false (.text false (content.drop user.length) :: more))
      | _, _ => expand fuel false word
    | _ => expand fuel false word

/-- Expands a parameter. -/
def expandParameter : (fuel : Nat) → (quoted : Bool) → (name : Raw) → ParameterUse →
    Run (List Item)
  | 0, _, _, _ => throw (.killed 9)
  | fuel + 1, quoted, name, use => do
    let isArguments := name = ['@'] || name = ['*']
    let arguments := (← get).frame.arguments
    let found? : Option Raw ← if isArguments then
        pure (some (List.intercalate [' '] arguments))
      else parameterValue? name
    let ofValue (value : Raw) : List Item := Item.ofText quoted (!quoted) value
    let present : Run (List Item) := do
      if isArguments then
        if quoted && name = ['*'] then
          let separator := match ← value? "IFS".toList with
            | none => [' ']
            | some separators => separators.take 1
          return Item.ofText true false (List.intercalate separator arguments)
        else return List.intercalate [.gap] (arguments.map ofValue)
      else
        match found? with
        | some value => return ofValue value
        | none =>
          if (← hasOption 'u') && name ≠ ['!'] then
            abort s!"{name.readable}: parameter not set"
          else return ofValue []
    let isMissing (missing : Missing) : Bool := match found? with
      | none => true
      | some value => missing = .unsetOrEmpty && value.isEmpty
    match use with
    | .value => present
    | .length => do
      let value := if isArguments then Nat.toDigits 10 arguments.length
        else Nat.toDigits 10 (found?.getD []).length
      return ofValue value
    | .default missing word =>
      if isMissing missing then expand fuel (!quoted) word else present
    | .instead missing word =>
      if isMissing missing then return ofValue [] else expand fuel (!quoted) word
    | .assign missing word =>
      if isMissing missing then
        if !isName name then abort s!"{name.readable}: bad variable name"
        else
          let value ← expandText fuel word
          assign name value
          return ofValue value
      else present
    | .fail missing word =>
      if isMissing missing then
        let given ← expandText fuel word
        let reason := if !word.isEmpty then given.readable
          else if missing = .unsetOrEmpty then "parameter not set or null"
          else "parameter not set"
        abort s!"{name.readable}: {reason}"
      else present
    | .dropStart longest pattern => do
      let pattern := Pattern.ofGlyphs (Item.glyphs (← expand fuel false pattern))
      return ofValue (pattern.dropStart longest (found?.getD []))
    | .dropEnd longest pattern => do
      let pattern := Pattern.ofGlyphs (Item.glyphs (← expand fuel false pattern))
      return ofValue (pattern.dropEnd longest (found?.getD []))

/-- Expands a word to one text. -/
def expandText : (fuel : Nat) → Word → Run Raw
  | 0, _ => throw (.killed 9)
  | fuel + 1, word => return Item.text (← expandWord fuel word)

/-- Expands words to fields. -/
def expandFields : (fuel : Nat) → List Word → Run (List Raw)
  | 0, _ => throw (.killed 9)
  | _, [] => return []
  | fuel + 1, word :: more => do
    let fields := Fields.split (← separators) (← expandWord fuel word)
    let found ← if ← hasOption 'f' then pure (fields.map fun field => field.map (·.char))
      else pure (fields.flatMap (paths (← get).files))
    return found ++ (← expandFields fuel more)

/-- What a script writes. -/
def capture : (fuel : Nat) → Script → Run Raw
  | 0, _ => throw (.killed 9)
  | fuel + 1, script => do
    let before ← get
    let index := before.channels.length
    modify fun state => { state with channels := state.channels ++ [[]] }
    subshell (point 1 (.channel index) *> run fuel script)
    let behind ← get
    set { behind with
      channels := behind.channels.take index
      code := before.code, substituted? := some behind.code }
    return channelText behind index

/-- Carries out redirections; false if one fails, which is then complained about. -/
def redirect : (fuel : Nat) → List Redirect → Run Bool
  | 0, _ => throw (.killed 9)
  | _, [] => return true
  | fuel + 1, first :: more => do
    let done ← match first with
      | .toFile stream append target => do
        let name ← expandText fuel target
        match ← openSink append name with
        | .ok sink =>
          point stream sink
          pure true
        | .error error =>
          complain (openFailure name true error)
          pure false
      | .fromFile stream source => do
        let name ← expandText fuel source
        match ← openSource name with
        | .ok text =>
          feed stream text
          pure true
        | .error error =>
          complain (openFailure name false error)
          pure false
      | .fromText stream body => do
        feed stream (Item.text (← expand fuel false body))
        pure true
      | .duplicate stream target => do duplicate stream (← expandText fuel target)
    if done then redirect fuel more else return false

/-- Runs a body with redirections, which end with it. What was left of another stream's input
goes back to that stream. -/
def redirected : (fuel : Nat) → List Redirect → (body failed : Run Unit) → Run Unit
  | 0, _, _, _ => throw (.killed 9)
  | fuel + 1, redirects, body, failed => do
    if redirects.isEmpty then body
    else
      let before ← get
      let feeds (redirect : Redirect) : Bool := match redirect with
        | .fromFile 0 _ | .fromText 0 _ | .duplicate 0 _ => true
        | _ => false
      let source? : Option Nat := redirects.findSome? fun redirect => match redirect with
        | .duplicate 0 [.text false text] => Builtin.digits? text
        | _ => none
      let restore : Run Unit := modify fun state =>
        let inputs := match source? with
          | some stream => (stream, state.stdin) :: before.frame.inputs.filter (·.1 ≠ stream)
          | none => before.frame.inputs
        { state with
          frame := { state.frame with sinks := before.frame.sinks, inputs := inputs }
          stdin := if redirects.any feeds then before.stdin else state.stdin }
      andAlways (do if ← redirect fuel redirects then body else failed) restore

/-- Sets variables to the values of words. -/
def assignAll : (fuel : Nat) → (exported : Bool) → List (Raw × Word) → Run Unit
  | 0, _, _ => throw (.killed 9)
  | _, _, [] => return
  | fuel + 1, exported, (name, word) :: more => do
    let value ← expandText fuel word
    assign name value
    if exported then
      putVariable name (some { (← findVariable? name).getD {} with exported := true })
    assignAll fuel exported more

/-- Runs a simple command. -/
def simple : (fuel : Nat) → (line : Nat) → List (Raw × Word) → List Word → List Redirect →
    Run Unit
  | 0, _, _, _, _ => throw (.killed 9)
  | fuel + 1, line, assignments, words, redirects => do
    modify fun state => { state with line := line, substituted? := none }
    let fields ← expandFields fuel words
    match fields with
    | [] =>
      let succeeds : Run Unit := do
        assignAll fuel false assignments
        setCode ((← get).substituted?.getD 0)
      redirected fuel redirects succeeds (setCode 2)
    | name :: args =>
      let functions := (← get).frame.functions
      if name = "exec".toList then
        if !(← redirect fuel redirects) then throw (.exited 2)
        else
          assignAll fuel true assignments
          if args.isEmpty then Builtin.succeed else replaceShell fuel args
      else
        match Builtin.special? name with
        | some builtin =>
          redirected fuel redirects (do
            assignAll fuel false assignments
            builtin args) (throw (.exited 2))
        | none =>
          let runs : Run Unit := do
            match functions.lookup name with
            | some body => callFunction fuel body args
            | none => runCommand fuel name args
          let isSpecial := ["eval", "command"].contains (String.ofList name)
          redirected fuel redirects (do
            if assignments.isEmpty then runs
            else
              let before ← assignments.mapM fun (name, _) => return (name, ← findVariable? name)
              assignAll fuel true assignments
              andAlways runs (if isSpecial then return
                else before.forM fun (name, found) => putVariable name found))
            (if isSpecial then throw (.exited 2) else setCode 2)

/-- Calls a function. -/
def callFunction : (fuel : Nat) → Script → List Raw → Run Unit
  | 0, _, _ => throw (.killed 9)
  | fuel + 1, body, args => do
    let outer := (← get).frame
    if maxCalls ≤ outer.calls then
      abort s!"Maximum function recursion depth ({maxCalls}) reached"
    modifyFrame fun frame =>
      { frame with arguments := args, hidden := [], calls := outer.calls + 1, loops := 0 }
    let restore : Run Unit := do
      let hidden := (← get).frame.hidden
      hidden.forM fun (name, found) => putVariable name found
      modifyFrame fun frame =>
        { frame with
          arguments := outer.arguments, hidden := outer.hidden
          calls := outer.calls, loops := outer.loops }
    let result ← (ExceptT.lift (run fuel body).run : Run (Except Stop Unit))
    restore
    match result with
    | .ok () => return
    | .error (.returned code) => setCode code
    | .error stop => throw stop

/-- Runs a command in place of the shell. -/
def replaceShell : (fuel : Nat) → List Raw → Run Unit
  | 0, _ => throw (.killed 9)
  | fuel + 1, args => do
    let name := args.headD []
    match ← findProgram name with
    | .error (text, code) =>
      complain s!"exec: {text}"
      throw (.exited code)
    | .ok _ =>
      runProgram fuel true args
      throw (.exited (← get).code)

/-- Runs a command of the shell or a program. -/
def runCommand : (fuel : Nat) → (name : Raw) → List Raw → Run Unit
  | 0, _, _ => throw (.killed 9)
  | fuel + 1, name, args => do
    match Builtin.regular? name with
    | some builtin => builtin args
    | none =>
      match String.ofList name with
      | "eval" =>
        if args.isEmpty then Builtin.succeed
        else evaluate fuel "eval: " (List.intercalate [' '] args)
      | "command" =>
        match args with
        | ['-', 'p'] :: inner :: rest | inner :: rest =>
          match Builtin.special? inner with
          | some builtin => builtin rest
          | none => runCommand fuel inner rest
        | [] => Builtin.succeed
      | _ => runProgram fuel false (name :: args)

/-- Runs a text as part of the script. -/
def evaluate : (fuel : Nat) → (about : String) → Raw → Run Unit
  | 0, _, _ => throw (.killed 9)
  | fuel + 1, about, text => runLines fuel about { rest := text }

/-- Runs a program with its arguments. -/
def runProgram : (fuel : Nat) → (replaces : Bool) → List Raw → Run Unit
  | 0, _, _ => throw (.killed 9)
  | fuel + 1, replaces, command => do
    let name := command.headD []
    let args := command.tail
    match ← findProgram name with
    | .error (text, code) => fail text code
    | .ok program =>
      match Tools.ofName? program with
      | some tool => carryOut name (tool args)
      | none => runShell fuel replaces name args

/-- Starts a shell. Where it does not take the place of this one, the signal that ends it
becomes a code, and is reported. -/
def runShell : (fuel : Nat) → (replaces : Bool) → (name : Raw) → List Raw → Run Unit
  | 0, _, _, _ => throw (.killed 9)
  | fuel + 1, replaces, name, args => do
    let outer ← get
    let own : List (Raw × Variable) :=
      [("PWD".toList, { value? := some (Tools.workingPath outer.files), exported := true }),
        ("IFS".toList, { value? := some [' ', '\t', '\n'] })]
    let given := outer.frame.bindings.filter fun (name, found) =>
      found.exported && isName name && (own.lookup name).isNone
    let fresh : Frame :=
      { name := name, bindings := own ++ given, sinks := outer.frame.sinks
        inputs := outer.frame.inputs
        processNumber := outer.frame.processNumber + 1 }
    modify fun state => { state with frame := fresh, code := 0, line := 0 }
    let start : Run Unit := do
      let (isScript, operands) ← takeOptions args
      if isScript then
        match operands with
        | [] => abort "-c requires an argument"
        | script :: rest =>
          modifyFrame fun frame =>
            { frame with name := rest.head?.getD name, arguments := rest.tail }
          runText fuel script
      else
        match operands, ← hasOption 's' with
        | file :: rest, false =>
          match ← openSource file with
          | .error error => abort (openFailure file false error)
          | .ok script =>
            modifyFrame fun frame => { frame with name := file, arguments := rest }
            runText fuel script
        | _, _ =>
          modifyFrame ({ · with arguments := operands })
          let script := (← get).stdin
          modify ({ · with stdin := [] })
          runText fuel script
    let result ← (ExceptT.lift (settle start).run : Run (Except Stop Unit))
    modify fun state =>
      { state with
        frame := outer.frame, line := outer.line
        files := { state.files with workingDirectory := outer.files.workingDirectory } }
    match result with
    | .error (.killed signal) =>
      if replaces then throw (.killed signal)
      else
        match signalReport signal with
        | some text => write 2 (text ++ "\n").toList
        | none => pure ()
        setCode (128 + signal)
    | _ => return

/-- Runs a script. -/
def run : (fuel : Nat) → Script → Run Unit
  | 0, _ => throw (.killed 9)
  | fuel + 1, script => do
    if ← hasOption 'n' then return
    match script with
    | .nothing => return
    | .simple line assignments words redirects =>
      simple fuel line assignments words redirects
      checkFailure
    | .pipe first second => do
      let before ← get
      let index := before.channels.length
      modify fun state => { state with channels := state.channels ++ [[]] }
      subshell (point 1 (.channel index) *> run fuel first)
      let fed ← get
      set { fed with
        channels := fed.channels.take index, stdin := channelText fed index
        code := before.code }
      subshell (run fuel second)
      modify ({ · with stdin := fed.stdin })
      checkFailure
    | .sequence first second => do
      run fuel first
      run fuel second
    | .both first second => do
      whileTested (run fuel first)
      if (← get).code = 0 then run fuel second
    | .either first second => do
      whileTested (run fuel first)
      if (← get).code ≠ 0 then run fuel second
    | .negate body => do
      whileTested (run fuel body)
      setCode (if (← get).code = 0 then 1 else 0)
    | .background body => do
      let before ← get
      modify ({ · with stdin := [] })
      subshell (run fuel body)
      modify ({ · with stdin := before.stdin })
      Builtin.succeed
    | .subshell line body => do
      modify ({ · with line := line })
      subshell (run fuel body)
      checkFailure
    | .redirected line body redirects => do
      modify ({ · with line := line })
      match body with
      | .subshell _ inner => do
        redirected fuel redirects (subshell (run fuel inner)) (setCode 2)
        checkFailure
      | _ => redirected fuel redirects (run fuel body) (setCode 2)
    | .choice condition yes no => do
      whileTested (run fuel condition)
      if (← get).code = 0 then run fuel yes
      else
        match no with
        | .nothing => setCode 0
        | _ => run fuel no
    | .loop untilSuccess condition body =>
      insideLoop (rounds fuel untilSuccess condition body 0)
    | .each line name words? body => do
      modify ({ · with line := line })
      let fields ← match words? with
        | some words => expandFields fuel words
        | none => pure (← get).frame.arguments
      if fields.isEmpty then setCode 0
      else insideLoop (roundsOver fuel name fields body)
    | .select line subject branches => do
      modify ({ · with line := line })
      let text ← expandText fuel subject
      select fuel text branches
    | .define name body => do
      modifyFrame fun frame =>
        { frame with functions := (name, body) :: frame.functions.filter (·.1 ≠ name) }
      Builtin.succeed

/-- Runs the rounds of a loop; the code is that of the last round. -/
def rounds : (fuel : Nat) → (untilSuccess : Bool) → (condition body : Script) → (code : Nat) →
    Run Unit
  | 0, _, _, _, _ => throw (.killed 9)
  | fuel + 1, untilSuccess, condition, body, code => do
    let goesOn ← oneRound (whileTested (run fuel condition))
    if !goesOn then setCode 0
    else if ((← get).code = 0) = !untilSuccess then
      if ← oneRound (run fuel body) then
        rounds fuel untilSuccess condition body (← get).code
    else setCode code

/-- Runs the rounds of a loop over fields. -/
def roundsOver : (fuel : Nat) → (name : Raw) → List Raw → (body : Script) → Run Unit
  | 0, _, _, _ => throw (.killed 9)
  | _, _, [], _ => return
  | fuel + 1, name, field :: more, body => do
    assign name field
    if ← oneRound (run fuel body) then roundsOver fuel name more body

/-- Runs the first branch that has a pattern for a text. -/
def select : (fuel : Nat) → Raw → List (List Word × Script) → Run Unit
  | 0, _, _ => throw (.killed 9)
  | _, _, [] => setCode 0
  | fuel + 1, text, (patterns, body) :: more => do
    if ← anyMatches fuel text patterns then
      match body with
      | .nothing => setCode 0
      | _ => run fuel body
    else select fuel text more

/-- Whether one of the patterns stands for a text. -/
def anyMatches : (fuel : Nat) → Raw → List Word → Run Bool
  | 0, _, _ => throw (.killed 9)
  | _, _, [] => return false
  | fuel + 1, text, word :: more => do
    let pattern := Pattern.ofGlyphs (Item.glyphs (← expandWord fuel word))
    if pattern.isMatch text then return true else anyMatches fuel text more

/-- Runs the text of a script, each command before the next one is read. -/
def runText : (fuel : Nat) → Raw → Run Unit
  | 0, _ => throw (.killed 9)
  | fuel + 1, text => runLines fuel "" { rest := text }

/-- Runs what is left of a script. `about` stands in front of complaints about it. -/
def runLines : (fuel : Nat) → (about : String) → Source → Run Unit
  | 0, _, _ => throw (.killed 9)
  | fuel + 1, about, source => do
    match Reader.next?.run source with
    | .error error =>
      modify ({ · with line := error.line })
      abort s!"{about}Syntax error: {error.fault.message}"
    | .ok (none, _) => return
    | .ok (some script, behind) =>
      run fuel script
      runLines fuel about behind

end

end DiagramEditor.Shell

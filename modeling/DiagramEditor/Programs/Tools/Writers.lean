import DiagramEditor.Programs.Printf
import DiagramEditor.Programs.Tools.Basic

/-! Programs that write what their arguments say. -/
namespace DiagramEditor.Tools

open Work

/-- An `echo` whose options say whether it knows escapes and ends the line. -/
def echoed (args : List Raw) : Output :=
  let isOption (argument : Raw) : Bool :=
    1 < argument.length && argument.head? = some '-' && argument.tail.all ("neE".toList.contains ·)
  let given := (args.takeWhile isOption).flatMap List.tail
  let joined := List.intercalate [' '] (args.dropWhile isOption)
  let escapes := (given.filter (· ≠ 'n')).getLast? = some 'e'
  let (text, ending) :=
    if escapes then Printf.unescape { hex := true } (joined.length + 1) joined
    else (joined, .complete)
  { stdout := if ending = .complete && !given.contains 'n' then text ++ ['\n'] else text }

def echo : Tool := fun args => giveOut (echoed args)

/-- An `echo` that always knows escapes. -/
def echoEscaped (args : List Raw) : Output :=
  let (newline, words) := match args with
    | ['-', 'n'] :: rest => ([], rest)
    | _ => (['\n'], args)
  let joined := List.intercalate [' '] words
  let (text, ending) := Printf.unescape {} (joined.length + 1) joined
  { stdout := if ending = .complete then text ++ newline else text }

/-- How a `printf` words its complaints, and the codes it ends with. -/
structure PrintfStyle where
  manner : Printf.Manner
  usage : String
  message : Printf.Fault → String
  /-- The code after a fault that ends all output. -/
  failureCode : Nat

def escapeMessage : Printf.EscapeFault → String
  | .noHexDigits => "missing hexadecimal number in escape"
  | .noCharacter name => s!"invalid universal character name {name.readable}"

def programStyle (name : String) : PrintfStyle where
  manner := .program
  usage := s!"{name}: missing operand\nTry '{name} --help' for more information."
  message fault := name ++ ": " ++ match fault with
    | .notNumber argument => s!"{argument.quoted}: expected a numeric value"
    | .notWhole argument => s!"{argument.quoted}: value not completely converted"
    | .outOfRange argument => s!"{argument.quoted}: Numerical result out of range"
    | .behindCharacter ignored =>
      s!"warning: {ignored.readable}: character(s) following character constant have been ignored"
    | .excess argument =>
      s!"warning: ignoring excess arguments, starting with {argument.quoted}"
    | .badWidth argument => s!"invalid field width: {argument.quoted}"
    | .badPrecision argument => s!"invalid precision: {argument.quoted}"
    | .badDirective directive => s!"{directive.readable}: invalid conversion specification"
    | .noConversion => "%: invalid conversion specification"
    | .badEscape fault => escapeMessage fault
  failureCode := 1

def printf (style : PrintfStyle) (args : List Raw) : Output :=
  match if args.head? = some ['-', '-'] then args.tail else args with
  | [] => { stderr := Raw.ofString (style.usage ++ "\n"), code := style.failureCode }
  | format :: rest =>
    let (output, faults, stopped) := Printf.format style.manner format rest
    { stdout := output
      stderr := faults.flatMap fun fault => Raw.ofString (style.message fault ++ "\n")
      code :=
        if stopped && style.manner = .program then 0
        else if faults.any (·.isFinal) then style.failureCode
        else if faults.all (·.isWarning) then 0
        else 1 }

/-- The `printf` that is a program. -/
def printfProgram : Tool := fun args => do
  giveOut (printf (programStyle (← title "printf")) args)

end DiagramEditor.Tools

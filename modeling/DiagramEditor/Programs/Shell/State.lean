import DiagramEditor.Host.ExitStatus
import DiagramEditor.Programs.Shell.Script
import DiagramEditor.Programs.Tools.Basic

/-! What a running script has: a part that each subshell has for itself, and a part that all
of them share, which is their input, what they have written, and the files. -/
namespace DiagramEditor.Shell

/-- Where the writes of a stream go: into one of the channels, to the end of a file, nowhere,
or to no open stream at all. -/
inductive Sink where
  | channel (index : Nat)
  | file (location : Location)
  | nowhere
  | closed
deriving DecidableEq, Repr

structure Variable where
  value? : Option Raw := none
  exported : Bool := false
  readOnly : Bool := false
deriving DecidableEq, Repr, Inhabited

/-- What a subshell has for itself. -/
structure Frame where
  name : Raw
  arguments : List Raw := []
  bindings : List (Raw × Variable) := []
  functions : List (Raw × Script) := []
  sinks : List (Nat × Sink) := [(1, .channel 0), (2, .channel 1)]
  inputs : List (Nat × Raw) := []
  options : List Char := []
  /-- What the variables of a function hid. -/
  hidden : List (Raw × Option Variable) := []
  /-- The number of functions that run inside each other. -/
  calls : Nat := 0
  loops : Nat := 0
  /-- Whether a failure is looked at, so that it does not end the script. -/
  tested : Bool := false
  processNumber : Nat := 1000

structure State where
  frame : Frame
  files : FileSystem := {}
  stdin : Raw := []
  /-- What was written to each channel, the newest text first. -/
  channels : List (List Raw) := [[], []]
  code : Nat := 0
  line : Nat := 1
  /-- How the last script that a word put in has ended. -/
  substituted? : Option Nat := none

/-- Why a script does not go on with its next command. -/
inductive Stop where
  | exited (code : Nat)
  | killed (signal : Nat)
  | returned (code : Nat)
  | broken (levels : Nat)
  | continued (levels : Nat)
deriving DecidableEq, Repr

abbrev Run := ExceptT Stop (StateM State)

namespace Run

def modifyFrame (change : Frame → Frame) : Run Unit :=
  modify fun state => { state with frame := change state.frame }

def setCode (code : Nat) : Run Unit := modify ({ · with code := code })

/-- Runs an action and another one behind it, however the first one ends. -/
def andAlways (body behind : Run Unit) : Run Unit := do
  let result ← (ExceptT.lift body.run : Run (Except Stop Unit))
  behind
  match result with
  | .ok () => return
  | .error stop => throw stop

/-- What was written to a channel. -/
def channelText (state : State) (index : Nat) : Raw :=
  ((state.channels[index]?).getD []).reverse.flatten

/-- Writes to a sink. -/
def writeTo (sink : Sink) (text : Raw) : Run Unit :=
  modify fun state =>
    match sink with
    | .channel index => { state with channels := state.channels.modify index (text :: ·) }
    | .file location => { state with files := state.files.append location text.toBytes }
    | .nowhere | .closed => state

/-- The sink that a stream has, if it has one. -/
def sinkOf? (stream : Nat) : Run (Option Sink) := return (← get).frame.sinks.lookup stream

/-- The sink that a stream has, which is closed if it has none. -/
def sinkOf (stream : Nat) : Run Sink := return (← sinkOf? stream).getD .closed

/-- Writes to a stream. -/
def write (stream : Nat) (text : Raw) : Run Unit := do writeTo (← sinkOf stream) text

def isClosed (stream : Nat) : Run Bool := return (← sinkOf stream) = .closed

/-- Writes a complaint, behind the name of the script and the number of the line. -/
def complain (text : String) : Run Unit := do
  let state ← get
  write 2 (state.frame.name ++ Raw.ofString s!": {state.line}: {text}\n")

/-- Complains and ends the script. -/
def abort {α : Type} (text : String) : Run α := do
  complain text
  throw (.exited 2)

/-- Complains and fails. -/
def fail (text : String) (code : Nat) : Run Unit := do
  complain text
  setCode code

def hasOption (option : Char) : Run Bool := return (← get).frame.options.contains option

def findVariable? (name : Raw) : Run (Option Variable) :=
  return (← get).frame.bindings.lookup name

def value? (name : Raw) : Run (Option Raw) := return (← findVariable? name).bind (·.value?)

def putVariable (name : Raw) (found? : Option Variable) : Run Unit :=
  modifyFrame fun frame =>
    let others := frame.bindings.filter (·.1 ≠ name)
    { frame with bindings := found?.toList.map (name, ·) ++ others }

/-- Sets a variable, unless it is read only. -/
def assign (name value : Raw) : Run Unit := do
  let before := (← findVariable? name).getD {}
  if before.readOnly then abort s!"{name.readable}: is read only"
  else
    let exported := before.exported || (← hasOption 'a')
    putVariable name (some { before with value? := some value, exported := exported })

/-- The separators of fields. -/
def separators : Run (List Char) := return (← value? "IFS".toList).getD [' ', '\t', '\n']

/-- Sets the sink of a stream. -/
def point (stream : Nat) (sink : Sink) : Run Unit :=
  modifyFrame fun frame =>
    { frame with sinks := (stream, sink) :: frame.sinks.filter (·.1 ≠ stream) }

/-- Opens a file for writing; it keeps what it holds if `append`. -/
def openSink (append : Bool) (name : Raw) : Run (Except OsError Sink) := do
  match String.ofList name with
  | "/dev/null" | "/dev/tty" => return .ok .nowhere
  | "/dev/full" => return .ok .closed
  | "/dev/stdout" | "/dev/fd/1" | "/proc/self/fd/1" => return .ok (← sinkOf 1)
  | "/dev/stderr" | "/dev/fd/2" | "/proc/self/fd/2" => return .ok (← sinkOf 2)
  | path =>
    let files := (← get).files
    match files.stat path, files.locate path with
    | .ok (.file _), .ok location =>
      if append then return .ok (.file location)
    | _, _ => pure ()
    match files.create path with
    | .error error => return .error error
    | .ok (location, opened) =>
      modify ({ · with files := opened })
      return .ok (.file location)

/-- Opens a file for reading. -/
def openSource (name : Raw) : Run (Except OsError Raw) := do
  let state ← get
  match ((Tools.Work.readFile name).run.run { stdin := state.stdin, files := state.files }).1 with
  | .ok result => return result
  | .error () => return .ok []

end Run
end DiagramEditor.Shell

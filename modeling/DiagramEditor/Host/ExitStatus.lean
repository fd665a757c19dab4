/-! How a program ended. The status that the operating system reports is one number:
its low seven bits hold the signal that ended the program, the eighth tells whether
the memory image was written, and the next eight hold the exit code. -/
namespace DiagramEditor

inductive ExitStatus where
  | exited (code : Nat)
  | signaled (signal : Nat) (coreDumped : Bool)
  | stopped (signal : Nat)
  | continued
  | unrecognised (status : Nat)
deriving DecidableEq, Repr

/-- The names of the signals, from number one on. -/
def signalNames : List String :=
  ["SIGHUP", "SIGINT", "SIGQUIT", "SIGILL", "SIGTRAP", "SIGABRT", "SIGBUS", "SIGFPE", "SIGKILL",
   "SIGUSR1", "SIGSEGV", "SIGUSR2", "SIGPIPE", "SIGALRM", "SIGTERM", "SIGSTKFLT", "SIGCHLD",
   "SIGCONT", "SIGSTOP", "SIGTSTP", "SIGTTIN", "SIGTTOU", "SIGURG", "SIGXCPU", "SIGXFSZ",
   "SIGVTALRM", "SIGPROF", "SIGWINCH", "SIGIO", "SIGPWR", "SIGSYS"]

/-- The number of a signal, followed by its name if it has one. -/
def signalText (signal : Nat) : String :=
  match if signal = 0 then none else signalNames[signal - 1]? with
  | some name => s!"{signal} ({name})"
  | none => s!"{signal}"

namespace ExitStatus

/-- Reads the reported number. -/
def ofWaitStatus (status : Nat) : ExitStatus :=
  let signal := status % 128
  if signal = 0 then exited (status / 256 % 256)
  else if signal ≠ 127 then signaled signal (status / 128 % 2 = 1)
  else if status % 256 = 127 then stopped (status / 256 % 256)
  else if status = 0xFFFF then continued
  else unrecognised status

def isSuccess (status : ExitStatus) : Bool := status = exited 0

def message : ExitStatus → String
  | exited code => s!"exit status: {code}"
  | signaled signal coreDumped =>
    "signal: " ++ signalText signal ++ (if coreDumped then " (core dumped)" else "")
  | stopped signal => "stopped (not terminated) by signal: " ++ signalText signal
  | continued => "continued (WIFCONTINUED)"
  | unrecognised status =>
    s!"unrecognised wait status: {status} 0x" ++ String.ofList (Nat.toDigits 16 status)

end ExitStatus
end DiagramEditor

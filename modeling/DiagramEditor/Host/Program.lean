import DiagramEditor.Host.ExitStatus
import DiagramEditor.Host.FileSystem
import DiagramEditor.Host.OsError
import DiagramEditor.Text.Utf8

/-! Running a program: it is given arguments and its whole standard input, and ends with a
status and all that it wrote. A program may also change files. What goes on between it and the
caller may fail. -/
namespace DiagramEditor

structure ProgramResult where
  status : ExitStatus := .exited 0
  stdout : Bytes := []
  stderr : Bytes := []
  /-- The error that ended the exchange with the program: its input could not be written, its
  output not be read or its end not be waited for. That it stops reading too early is none. -/
  transferFault? : Option OsError := none
  /-- The files behind the run; none if it left them as they were. -/
  files? : Option FileSystem := none
deriving DecidableEq, Repr

/-- The programs of a machine. Where a program cannot be started, nothing runs. -/
abbrev Programs := (program : String) → (args : List String) → (stdin : Bytes) →
  Except OsError ProgramResult

end DiagramEditor

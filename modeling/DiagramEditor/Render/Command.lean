import DiagramEditor.Host.Program
import DiagramEditor.Render.Error
import DiagramEditor.Text.Search
import DiagramEditor.Text.Whitespace

/-! Rendering by a program that reads the source and writes SVG. The program has to end
with success, and its output has to be text in which an SVG element begins. -/
namespace DiagramEditor

structure CommandRenderer where
  program : String
  args : List String
deriving DecidableEq, Repr

namespace CommandRenderer

/-- What the end of the program means for the render. -/
def interpret (result : ProgramResult) : Except RenderError Text :=
  match result.transferFault? with
  | some error => .error (.transfer error)
  | none =>
    if result.status.isSuccess then
      match Utf8.decode result.stdout with
      | .error error => .error (.invalidUtf8 error)
      | .ok output => if Text.occursIn "<svg".toList output then .ok output else .error .notSvg
    else .error (.failed result.status (Utf8.decodeLossy result.stderr).trim)

def render (programs : Programs) (command : CommandRenderer) : Renderer := fun source =>
  match programs command.program command.args source.toUtf8 with
  | .error error => .error (.spawn command.program error)
  | .ok result => interpret result

/-- The files that a render of a source leaves. -/
def filesBehind (programs : Programs) (command : CommandRenderer) (files : FileSystem)
    (source : Text) : FileSystem :=
  match programs command.program command.args source.toUtf8 with
  | .error _ => files
  | .ok result => result.files?.getD files

end CommandRenderer
end DiagramEditor

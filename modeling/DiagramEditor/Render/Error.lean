import DiagramEditor.Host.ExitStatus
import DiagramEditor.Host.OsError
import DiagramEditor.Text.Utf8

/-! Rendering turns a diagram source into SVG markup, or says why it cannot. -/
namespace DiagramEditor

inductive RenderError where
  | spawn (program : String) (source : OsError)
  | failed (status : ExitStatus) (stderr : Text)
  | notSvg
  | invalidUtf8 (error : Utf8.DecodeError)
  | transfer (error : OsError)
  | rejected (reason : String)
  | workerGone
deriving DecidableEq, Repr

def RenderError.message : RenderError → String
  | spawn program source => s!"Failed to start renderer '{program}': {source.message}"
  | failed status stderr => s!"Renderer exited with {status.message}: {String.ofList stderr}"
  | notSvg => "Renderer output is not SVG markup"
  | invalidUtf8 error => s!"Renderer output is not valid UTF-8: {error.message}"
  | transfer error => s!"Renderer IO error: {error.message}"
  | rejected reason => s!"Diagram rejected: {reason}"
  | workerGone => "Render worker has shut down"

/-- A rendering engine, which always gives the same answer for the same source. -/
abbrev Renderer := Text → Except RenderError Text

end DiagramEditor

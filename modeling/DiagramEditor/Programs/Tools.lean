import DiagramEditor.Programs.Records.Command
import DiagramEditor.Programs.Tools.Passing
import DiagramEditor.Programs.Tools.Translate
import DiagramEditor.Programs.Tools.Writers

/-! The small programs by their names. -/
namespace DiagramEditor.Tools

def all : List (String × Tool) :=
  [("awk", Records.awk), ("cat", cat), ("echo", echo), ("false", fun _ => Work.setCode 1),
    ("head", head), ("printf", printfProgram), ("tr", tr), ("true", fun _ => pure ())]

/-- The program of a name. -/
def ofName? (name : Raw) : Option Tool := all.lookup (String.ofList name)

end DiagramEditor.Tools

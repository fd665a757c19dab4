import DiagramEditor.Text.Split

/-! The lines of a text in their finished form, free of their ends. A newline ends a
line, and a carriage return just before that newline belongs to the end. A carriage
return anywhere else, that at the very end of an unfinished last line included, is
an ordinary character. -/
namespace DiagramEditor.Text

/-- The line without the carriage return that stands at its very end. -/
def dropFinalReturn (line : Text) : Text :=
  if line.getLast? = some '\r' then line.dropLast else line

/-- The lines among the pieces between the newlines. What follows the last newline
is a line only if there is something. -/
def finishLines : List Text → List Text
  | [] => []
  | [last] => if last.isEmpty then [] else [last]
  | line :: next :: more => line.dropFinalReturn :: finishLines (next :: more)

def lines (text : Text) : List Text := finishLines (text.split '\n')

end DiagramEditor.Text

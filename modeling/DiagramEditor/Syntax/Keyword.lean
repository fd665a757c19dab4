import DiagramEditor.Syntax.Rule
import DiagramEditor.Text.Whitespace

/-! Keywords open a line. The candidate is the first word after the indent, with
one hyphen and a second word when they follow at once; it has to be a keyword as
a whole, so a keyword that a longer word begins with does not count. -/
namespace DiagramEditor.Syntax

def keywords : List String :=
  ["graph", "flowchart", "sequenceDiagram", "classDiagram", "stateDiagram", "erDiagram", "pie",
   "gantt", "journey", "subgraph", "end", "architecture-beta", "group", "service"]

/-- A run of word characters and, after it, at most one hyphen with a second run. -/
def hyphenatedWord (rest : Text) : Text :=
  let word := rest.takeWhile isWordChar
  match rest.dropWhile isWordChar with
  | '-' :: more => if word.isEmpty then [] else word ++ '-' :: more.takeWhile isWordChar
  | _ => word

/-- The number of characters of the indent and the keyword that begin a line. -/
def keywordLength? (line : Text) : Option Nat :=
  let indent := line.takeWhile isWhitespace
  let word := hyphenatedWord (line.dropWhile isWhitespace)
  if keywords.contains (String.ofList word) then some (indent.length + word.length) else none

end DiagramEditor.Syntax

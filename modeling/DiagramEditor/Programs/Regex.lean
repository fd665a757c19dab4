import DiagramEditor.Programs.CharacterSet

/-! Regular expressions and their matches. Of all matches at a place the longest counts. -/
namespace DiagramEditor

inductive Regex where
  | empty
  | one (set : CharacterSet)
  | textStart
  | textEnd
  | both (first second : Regex)
  | either (first second : Regex)
  | repeated (least : Nat) (most? : Option Nat) (body : Regex)
deriving Repr, Inhabited

namespace Regex

/-- A place in a text: how many characters are in front of it, and what is behind it. -/
structure Place where
  before : Nat := 0
  rest : Raw
deriving DecidableEq

/-- The places behind a number of steps. -/
def afterSteps (step : List Place → List Place) : (count : Nat) → List Place → List Place
  | 0, places => places
  | count + 1, places => if places.isEmpty then [] else afterSteps step count (step places)

/-- The places behind at most some more steps. Each step leads on to places that are new. -/
def afterMoreSteps (step : List Place → List Place) : (most : Nat) → (seen : List Place) →
    List Place → List Place
  | 0, seen, _ => seen
  | most + 1, seen, places =>
    let next := (step places).filter fun place => !seen.contains place
    if next.isEmpty then seen else afterMoreSteps step most (seen ++ next) next

/-- The places that a match can lead to. -/
def run : Regex → Place → List Place
  | empty, place => [place]
  | one set, place =>
    match place.rest with
    | c :: rest => if set.contains c then [⟨place.before + 1, rest⟩] else []
    | [] => []
  | textStart, place => if place.before = 0 then [place] else []
  | textEnd, place => if place.rest.isEmpty then [place] else []
  | both first second, place => ((run first place).flatMap (run second)).eraseDups
  | either first second, place => (run first place ++ run second place).eraseDups
  | repeated least most? body, place =>
    let step (places : List Place) : List Place := (places.flatMap (run body)).eraseDups
    let starts := afterSteps step least [place]
    afterMoreSteps step ((most?.map (· - least)).getD place.rest.length) starts starts

/-- What was matched: where, and how much. -/
structure Found where
  start : Nat
  length : Nat

/-- The length of the longest match at a place. -/
def matchAt? (regex : Regex) (place : Place) : Option Nat :=
  ((regex.run place).map fun behind => behind.before - place.before).max?

/-- The first match in a text from a place on. -/
def search? (regex : Regex) (text : Raw) (start : Nat) : Option Found :=
  (List.range (text.length + 1 - start)).findSome? fun skipped =>
    let place : Place := ⟨start + skipped, text.drop (start + skipped)⟩
    (regex.matchAt? place).map fun length => ⟨place.before, length⟩

end Regex
end DiagramEditor

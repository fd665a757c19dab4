import DiagramEditor.Programs.Raw

/-! Shell scripts: commands made of words, joined by pipes, by success and failure, and one
after the other. A word is a row of pieces, which say what is quoted and what has to
be put in when the word is used. -/
namespace DiagramEditor.Shell

/-- Which texts for a parameter call for its other word: no text at all, or an empty one too. -/
inductive Missing where
  | unset
  | unsetOrEmpty
deriving DecidableEq, Repr

mutual

inductive Piece where
  | text (quoted : Bool) (content : Raw)
  | parameter (quoted : Bool) (name : Raw) (use : ParameterUse)
  | output (quoted : Bool) (script : Script)
  | arithmetic (quoted : Bool) (expression : List Piece)
  | badSubstitution

/-- What becomes of the value of a parameter. -/
inductive ParameterUse where
  | value
  | length
  | default (missing : Missing) (word : List Piece)
  | assign (missing : Missing) (word : List Piece)
  | fail (missing : Missing) (word : List Piece)
  | instead (missing : Missing) (word : List Piece)
  | dropStart (longest : Bool) (pattern : List Piece)
  | dropEnd (longest : Bool) (pattern : List Piece)

/-- A redirection of a stream: to or from a file, to what another stream leads to, or from a
text in the script. -/
inductive Redirect where
  | toFile (stream : Nat) (append : Bool) (target : List Piece)
  | fromFile (stream : Nat) (source : List Piece)
  | duplicate (stream : Nat) (target : List Piece)
  | fromText (stream : Nat) (body : List Piece)

inductive Script where
  | nothing
  | simple (line : Nat) (assignments : List (Raw × List Piece)) (words : List (List Piece))
      (redirects : List Redirect)
  | pipe (first second : Script)
  | sequence (first second : Script)
  | both (first second : Script)
  | either (first second : Script)
  | negate (body : Script)
  | background (body : Script)
  | subshell (line : Nat) (body : Script)
  | redirected (line : Nat) (body : Script) (redirects : List Redirect)
  | choice (condition yes no : Script)
  /-- Runs the body for as long as the condition succeeds, or until it does. -/
  | loop (untilSuccess : Bool) (condition body : Script)
  /-- Without words the loop runs over the arguments. -/
  | each (line : Nat) (name : Raw) (words? : Option (List (List Piece))) (body : Script)
  | select (line : Nat) (subject : List Piece) (branches : List (List (List Piece) × Script))
  | define (name : Raw) (body : Script)

end

abbrev Word := List Piece

instance : Inhabited Script := ⟨.nothing⟩

def isNameStart (c : Char) : Bool := c.isAlpha || c = '_'

def isNameChar (c : Char) : Bool := c.isAlphanum || c = '_'

def isName (name : Raw) : Bool := name.head?.any isNameStart && name.all isNameChar

/-- The text of a word of which nothing is quoted or has to be put in. -/
def plainText? (word : Word) : Option Raw :=
  word.foldr (fun piece text? =>
    match piece, text? with
    | .text false content, some text => some (content ++ text)
    | _, _ => none) (some [])

/-- The name and the value of a word that is an assignment. -/
def assignment? : Word → Option (Raw × Word)
  | .text false content :: rest =>
    let name := content.takeWhile (· ≠ '=')
    if name.length < content.length && isName name then
      let value := content.drop (name.length + 1)
      some (name, if value.isEmpty then rest else .text false value :: rest)
    else none
  | _ => none

/-- Why a script cannot be read. -/
inductive SyntaxFault where
  | unexpected (token : String) (expected? : Option String)
  | openQuote
  | openBackquote
  | missing (closing : String)
  | badFunctionName
  | badLoopVariable
deriving DecidableEq, Repr

def SyntaxFault.message : SyntaxFault → String
  | unexpected token (some expected) => s!"{token} unexpected (expecting {expected})"
  | unexpected token none => s!"{token} unexpected"
  | openQuote => "Unterminated quoted string"
  | openBackquote => "EOF in backquote substitution"
  | missing closing => "Missing '" ++ closing ++ "'"
  | badFunctionName => "Bad function name"
  | badLoopVariable => "Bad for loop variable"

/-- A fault and the line on which it was found. -/
structure SyntaxError where
  line : Nat
  fault : SyntaxFault
deriving DecidableEq, Repr

end DiagramEditor.Shell

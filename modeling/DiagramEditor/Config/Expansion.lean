import DiagramEditor.Host.Environment
import DiagramEditor.Text.Alphanumeric
import DiagramEditor.Text.Basic

/-! Expansion of a command. A dollar sign with a name, bare or in braces, stands for an
environment variable, and braces may give a default for an unset one; two dollar
signs stand for one. A single unset variable without default makes the expansion
fail, and the command then stays as it was. A tilde at the start, alone or before a
slash, stands for the home directory, unless a variable brought it there. -/
namespace DiagramEditor.Expansion

def isNameChar (c : Char) : Bool := Unicode.isAlphanumeric c || c = '_'

/-- The name and the default between braces. A default needs a name before it. -/
def splitDefault : Text → Text × Option Text
  | [] => ([], none)
  | ':' :: '-' :: rest => ([], some rest)
  | c :: rest =>
    let (name, default?) := splitDefault rest
    (c :: name, default?)

/-- What stands for the text between braces; none for an unset variable. -/
def braced? (environment : Environment) (inner : Text) : Option Text :=
  match splitDefault inner with
  | ([], _) => (environment.get? (String.ofList inner)).map String.toList
  | (name, default?) =>
    match environment.get? (String.ofList name) with
    | some value => some value.toList
    | none => default?

/-- Replaces the variables of a text. -/
def replaceVariables? (environment : Environment) (text : Text) : Option Text :=
  match text with
  | [] => some []
  | '$' :: '$' :: rest => (replaceVariables? environment rest).map ('$' :: ·)
  | '$' :: '\x7b' :: rest =>
    match _closed : rest.dropWhile (· ≠ '\x7d') with
    | [] => (replaceVariables? environment rest).map (['$', '\x7b'] ++ ·)
    | _ :: behind =>
      (braced? environment (rest.takeWhile (· ≠ '\x7d'))).bind fun value =>
        (replaceVariables? environment behind).map (value ++ ·)
  | '$' :: rest =>
    let name := rest.takeWhile isNameChar
    if name.isEmpty then (replaceVariables? environment rest).map ('$' :: ·)
    else
      (environment.get? (String.ofList name)).bind fun value =>
        (replaceVariables? environment (rest.dropWhile isNameChar)).map (value.toList ++ ·)
  | c :: rest => (replaceVariables? environment rest).map (c :: ·)
termination_by text.length
decreasing_by
  · simp only [List.length_cons]; omega
  · simp only [List.length_cons]; omega
  · have : (rest.dropWhile (· ≠ '\x7d')).length ≤ rest.length :=
      (List.dropWhile_suffix _).length_le
    rw [_closed] at this
    simp only [List.length_cons] at this ⊢
    omega
  · simp only [List.length_cons]; omega
  · have : (rest.dropWhile isNameChar).length ≤ rest.length :=
      (List.dropWhile_suffix _).length_le
    simp only [List.length_cons]
    omega
  · simp only [List.length_cons]; omega

/-- Replaces a tilde at the start. -/
def tilde (environment : Environment) (text : Text) : Text :=
  match text with
  | '~' :: rest =>
    if rest.head?.all (· = '/') then environment.home.toList ++ rest else text
  | _ => text

/-- The command with its variables and its tilde replaced; none if a variable is unset. -/
def expand? (environment : Environment) (command : Text) : Option Text :=
  (replaceVariables? environment command).map fun expanded =>
    if command.head? = some '~' then tilde environment expanded else expanded

/-- The expanded command, or the command itself where the expansion fails. -/
def command (environment : Environment) (written : String) : String :=
  ((expand? environment written.toList).map String.ofList).getD written

end DiagramEditor.Expansion

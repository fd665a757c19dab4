import DiagramEditor.Text.Basic

/-! The environment in which the editor runs: its bindings, and the home directory of the
account, which stands in where the variable for it is unset or empty. -/
namespace DiagramEditor

structure Environment where
  bindings : List (String × String)
  accountHome : String := "/root"
deriving DecidableEq, Repr, Inhabited

namespace Environment

/-- The bindings as they are handed to a program: a name, an equals sign and the value. -/
def entries (environment : Environment) : List Text :=
  environment.bindings.map fun (name, value) => name.toList ++ ['='] ++ value.toList

/-- The value of a name: what follows it and an equals sign in the first entry that starts
with both. -/
def get? (environment : Environment) (name : String) : Option String :=
  let start : Text := name.toList ++ ['=']
  (environment.entries.find? start.isPrefixOf).map fun entry =>
    String.ofList (entry.drop start.length)

def home (environment : Environment) : String :=
  match environment.get? "HOME" with
  | some home => if home.isEmpty then environment.accountHome else home
  | none => environment.accountHome

end Environment
end DiagramEditor

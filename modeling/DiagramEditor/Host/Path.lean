import DiagramEditor.Text.Split

/-! Paths are texts; slashes separate the names of directories in them, and a path
that begins with a slash starts at the root. An empty name and a single dot stand
for the directory itself, so a slash at the end asks for a directory. -/
namespace DiagramEditor

abbrev Path := String

namespace Path

def isAbsolute (path : Path) : Bool := path.toList.head? = some '/'

/-- The names between the slashes, empty ones included. -/
def names (path : Path) : List String := (Text.split '/' path.toList).map String.ofList

/-- A name that leads nowhere else. -/
def isIdle (name : String) : Bool := name.isEmpty || name = "."

/-- The names without those that lead nowhere, but a relative path keeps the dot at
its start. -/
def components (path : Path) : List String :=
  match path.names with
  | "." :: more => "." :: more.filter (!isIdle ·)
  | names => names.filter (!isIdle ·)

/-- The path that goes from the root through some names. -/
def fromRoot (names : List String) : Path :=
  String.ofList ('/' :: Text.join '/' (names.map String.toList))

/-- The name of what the path leads to; none if it ends by going up or nowhere. -/
def fileName? (path : Path) : Option String :=
  match path.components.getLast? with
  | some name => if name = "." || name = ".." then none else some name
  | none => none

/-- The beginnings of a list of names that end in a name which leads elsewhere, the
longest first. The names are given in reverse. A dot counts where a path starts. -/
def stops : List String → List (List String)
  | [] => []
  | name :: outer =>
    if name.isEmpty || (name = "." && !outer.isEmpty) then stops outer
    else (name :: outer).reverse :: stops outer

/-- The paths of all that a path goes through, from its end outward to its start. Each
is the beginning of its text up to there, so slashes and dots between names stay. -/
def outward (path : Path) : List Path :=
  (stops path.names.reverse).map (fun names =>
    String.ofList (Text.join '/' (names.map String.toList))) ++
      if path.isAbsolute then ["/"] else []

/-- The path of the directory that holds what the path leads to; none for the root
and for the empty path. -/
def parent? (path : Path) : Option Path :=
  match path.outward with
  | [] => none
  | _ :: outer => if outer.isEmpty && !path.isAbsolute then some "" else outer.head?

/-- A name below a directory given by its path. -/
def child (path : Path) (name : String) : Path :=
  if path.isEmpty || path.toList.getLast? = some '/' then path ++ name else path ++ "/" ++ name

/-- The path with its file name replaced, or extended if it has none. -/
def withFileName (path : Path) (name : String) : Path :=
  match path.fileName? with
  | some _ => child (path.parent?.getD "") name
  | none => child path name

end Path
end DiagramEditor

import DiagramEditor.Programs.Tools

/-! What a machine has beside the files that matter: its directories, a few files that can be
read but not run, and the programs in the two directories where they are kept. A name
without a slash is looked for in the directories of the search path. -/
namespace DiagramEditor.Installed

/-- The shell, by both of its names, and the small programs. -/
def programNames : List String := ["dash", "sh"] ++ Tools.all.map (·.1)

/-- What is below the root of every machine. -/
def entries : List (Location × Entry) :=
  let directories : List Location :=
    [["bin"], ["boot"], ["dev"], ["etc"], ["home"], ["lib"], ["media"], ["mnt"], ["opt"],
      ["proc"], ["root"], ["run"], ["sbin"], ["srv"], ["sys"], ["tmp"], ["usr"], ["usr", "bin"],
      ["usr", "lib"], ["usr", "local"], ["usr", "local", "bin"], ["usr", "sbin"],
      ["usr", "share"], ["var"], ["var", "lib"], ["var", "log"], ["var", "tmp"]]
  let files : List Location :=
    [["dev", "full"], ["dev", "null"], ["dev", "random"], ["dev", "stderr"], ["dev", "stdin"],
      ["dev", "stdout"], ["dev", "tty"], ["dev", "urandom"], ["dev", "zero"],
      ["etc", "group"], ["etc", "hostname"], ["etc", "hosts"], ["etc", "passwd"],
      ["etc", "resolv.conf"]]
  let programs := Tools.programDirectories.flatMap fun directory =>
    programNames.map fun name => directory ++ [name]
  directories.map (·, .directory) ++ (files ++ programs).map (·, .file [])

/-- The files of a machine with what every machine has. -/
def addTo (files : FileSystem) : FileSystem :=
  let missing := entries.filter fun entry => (files.lookup? entry.1).isNone
  { files with entries := files.entries ++ missing }

/-- The files of a machine without what it has been given so. -/
def takeFrom (before files : FileSystem) : FileSystem :=
  { before with
    entries := files.entries.filter fun entry =>
      (before.lookup? entry.1).isSome || (entries.lookup entry.1) ≠ some entry.2 }

/-- The name of the program at a path. Nothing else can be run. -/
def programAt (files : FileSystem) (path : Path) : Except OsError Raw :=
  match files.stat path, files.locate path with
  | .error error, _ | _, .error error => .error error
  | .ok _, .ok location =>
    let name := location.getLast?.getD ""
    if Tools.programDirectories.contains location.dropLast && programNames.contains name then
      .ok (Raw.ofString name)
    else .error .permissionDenied

/-- The first program of a name in the directories of a search path. A directory in which it
cannot be run is remembered if no other one has it. -/
def search (files : FileSystem) (name : Raw) : List Raw → Except OsError Raw
  | [] => .error .noSuchFile
  | directory :: more =>
    let path := if directory.isEmpty then name else directory ++ '/' :: name
    match programAt files path.readable with
    | .ok program => .ok program
    | .error error =>
      match search files name more with
      | .ok program => .ok program
      | .error later => .error (if later = .permissionDenied then later
          else if error = .permissionDenied then error else .noSuchFile)

/-- The program that a command names: by a path, or by a name to look for. -/
def find (files : FileSystem) (searchPath : Raw) (command : Raw) : Except OsError Raw :=
  if command.contains '/' then programAt files command.readable
  else if command.isEmpty then .error .noSuchFile
  else if maxNameSize < command.length then .error .nameTooLong
  else search files command (Text.split ':' searchPath)

end DiagramEditor.Installed

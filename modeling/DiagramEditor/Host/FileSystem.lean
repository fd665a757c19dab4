import DiagramEditor.Host.OsError
import DiagramEditor.Host.Path
import DiagramEditor.Text.Utf8

/-! A file system of regular files and directories. Each call either succeeds or fails with the
error that the operating system reports. A call that fails leaves everything as it was, but for a
write that ends too early: what came before the error stays in the file. A path is followed name
by name, and every name but the last has to lead to a directory. Names and paths have a greatest
length. -/
namespace DiagramEditor

/-- The names that lead from the root to an entry. -/
abbrev Location := List String

inductive Entry where
  | file (content : Bytes)
  | directory
deriving DecidableEq, Repr

structure FileSystem where
  /-- The entries below the root, each with its location, in the order of creation. -/
  entries : List (Location × Entry) := []
  workingDirectory : Location := []
  /-- After how many bytes a write ends, and with which error. With none, every write gets
  through. -/
  writeFault? : Option (Nat × OsError) := none
deriving DecidableEq, Repr, Inhabited

def maxNameSize : Nat := 255

def maxPathSize : Nat := 4095

namespace FileSystem

/-- The entry at a location. The root is a directory. -/
def lookup? (fs : FileSystem) (location : Location) : Option Entry :=
  if location.isEmpty then some .directory else fs.entries.lookup location

/-- The file system with one entry replaced or added. -/
def put (fs : FileSystem) (location : Location) (entry : Entry) : FileSystem :=
  { fs with
    entries :=
      if (fs.entries.lookup location).isSome then
        fs.entries.map fun other => if other.1 = location then (location, entry) else other
      else fs.entries ++ [(location, entry)] }

def erase (fs : FileSystem) (location : Location) : FileSystem :=
  { fs with entries := fs.entries.filter (·.1 ≠ location) }

/-- A file system that holds the given working directory and no more. -/
def fresh (workingDirectory : Location) : FileSystem where
  entries := (List.range workingDirectory.length).map fun depth =>
    (workingDirectory.take (depth + 1), .directory)
  workingDirectory := workingDirectory

/-- The entries below a directory, at their locations relative to it. -/
def below (fs : FileSystem) (directory : Location) : List (Location × Entry) :=
  fs.entries.filterMap fun (location, entry) =>
    if directory.isPrefixOf location then some (location.drop directory.length, entry) else none

/-- Follows names from a location on. Only a directory has anything below it. -/
def walk (fs : FileSystem) (location : Location) : List String → Except OsError Location
  | [] => .ok location
  | name :: more =>
    match fs.lookup? location with
    | none => .error .noSuchFile
    | some (.file _) => .error .notADirectory
    | some .directory =>
      if Path.isIdle name then fs.walk location more
      else if name = ".." then fs.walk location.dropLast more
      else if maxNameSize < name.utf8ByteSize then .error .nameTooLong
      else fs.walk (location ++ [name]) more

/-- The directory from which a path starts. -/
def origin (fs : FileSystem) (path : Path) : Location :=
  if path.isAbsolute then [] else fs.workingDirectory

/-- Refuses paths that no call takes. -/
def checkPath (path : Path) : Except OsError Unit :=
  if path.toList.contains '\x00' then .error .nulInPath
  else if path.isEmpty then .error .noSuchFile
  else if maxPathSize < path.utf8ByteSize then .error .nameTooLong
  else .ok ()

/-- The location that a path leads to. The last name need not exist there. -/
def locate (fs : FileSystem) (path : Path) : Except OsError Location :=
  match checkPath path with
  | .error error => .error error
  | .ok () => fs.walk (fs.origin path) path.names

/-- The last name of a path, seen from the directory that holds it. -/
inductive Target where
  | entry (location : Location) (asDirectory : Bool)
  | upOrHere
deriving DecidableEq, Repr

/-- Follows all names of a path but the last. Slashes at the end belong to the last
name and ask for a directory. -/
def locateTarget (fs : FileSystem) (path : Path) : Except OsError Target :=
  match checkPath path with
  | .error error => .error error
  | .ok () =>
    let reversed := path.names.reverse
    match reversed.dropWhile String.isEmpty with
    | [] => .ok .upOrHere
    | last :: outer =>
      match fs.walk (fs.origin path) (outer.reverse ++ [""]) with
      | .error error => .error error
      | .ok location =>
        if last = "." || last = ".." then .ok .upOrHere
        else .ok (.entry (location ++ [last]) (reversed.head?.any String.isEmpty))

/-- What the last name of a path stands for, if there is anything. -/
def lookupTarget? (fs : FileSystem) (location : Location) : Except OsError (Option Entry) :=
  if location.getLast?.any (maxNameSize < ·.utf8ByteSize) then .error .nameTooLong
  else .ok (fs.lookup? location)

/-- What a path leads to. -/
def stat (fs : FileSystem) (path : Path) : Except OsError Entry :=
  match fs.locate path with
  | .error error => .error error
  | .ok location =>
    match fs.lookup? location with
    | some entry => .ok entry
    | none => .error .noSuchFile

def pathExists (fs : FileSystem) (path : Path) : Bool := (fs.stat path).isOk

def isDirectory (fs : FileSystem) (path : Path) : Bool :=
  match fs.stat path with
  | .ok .directory => true
  | _ => false

def readFile (fs : FileSystem) (path : Path) : Except OsError Bytes :=
  match fs.stat path with
  | .ok (.file content) => .ok content
  | .ok .directory => .error .isADirectory
  | .error error => .error error

/-- Reads a file that has to hold text. -/
def readText (fs : FileSystem) (path : Path) : Except OsError Text :=
  match fs.readFile path with
  | .error error => .error error
  | .ok content =>
    match Utf8.decode content with
    | .ok text => .ok text
    | .error _ => .error .notText

/-- Opens a file for writing: it is created, or loses what it holds. -/
def create (fs : FileSystem) (path : Path) : Except OsError (Location × FileSystem) :=
  match fs.locateTarget path with
  | .error error => .error error
  | .ok .upOrHere => .error .isADirectory
  | .ok (.entry location asDirectory) =>
    if asDirectory then .error .isADirectory
    else
      match fs.lookupTarget? location with
      | .error error => .error error
      | .ok (some .directory) => .error .isADirectory
      | .ok _ => .ok (location, fs.put location (.file []))

/-- Adds to the end of an open file. -/
def append (fs : FileSystem) (location : Location) (content : Bytes) : FileSystem :=
  match fs.lookup? location with
  | some (.file before) => fs.put location (.file (before ++ content))
  | _ => fs

/-- Writes to an open file. A write that fails says what it leaves: the file with as much of the
content as got through. -/
def write (fs : FileSystem) (location : Location) (content : Bytes) :
    Except (OsError × FileSystem) FileSystem :=
  match fs.writeFault? with
  | some (size, error) =>
    if size < content.length then .error (error, fs.append location (content.take size))
    else .ok (fs.append location content)
  | none => .ok (fs.append location content)

/-- Replaces the content of a file, or creates it with that content. -/
def writeFile (fs : FileSystem) (path : Path) (content : Bytes) :
    Except (OsError × FileSystem) FileSystem :=
  match fs.create path with
  | .error error => .error (error, fs)
  | .ok (location, opened) => opened.write location content

/-- Moves a file to another path, where it takes the place of a file. -/
def renameFile (fs : FileSystem) (source target : Path) : Except OsError FileSystem :=
  match fs.locateTarget source, fs.locateTarget target with
  | .error error, _ => .error error
  | _, .error error => .error error
  | .ok .upOrHere, _ => .error .busy
  | _, .ok .upOrHere => .error .busy
  | .ok (.entry source sourceAsDirectory), .ok (.entry target targetAsDirectory) =>
    match fs.lookupTarget? source, fs.lookupTarget? target with
    | .error error, _ => .error error
    | .ok none, _ => .error .noSuchFile
    | _, .error error => .error error
    | .ok (some (.file content)), .ok old =>
      if sourceAsDirectory || targetAsDirectory then .error .notADirectory
      else if old = some .directory then .error .isADirectory
      else if source = target then .ok fs
      else .ok ((fs.erase source).put target (.file content))
    | .ok (some .directory), .ok _ => .error .isADirectory

/-- Removes a file. -/
def removeFile (fs : FileSystem) (path : Path) : Except OsError FileSystem :=
  match fs.locateTarget path with
  | .error error => .error error
  | .ok .upOrHere => .error .isADirectory
  | .ok (.entry location asDirectory) =>
    match fs.lookupTarget? location with
    | .error error => .error error
    | .ok (some (.file _)) =>
      if asDirectory then .error .notADirectory else .ok (fs.erase location)
    | .ok (some .directory) => .error .isADirectory
    | .ok none => .error .noSuchFile

def makeDirectory (fs : FileSystem) (path : Path) : Except OsError FileSystem :=
  match fs.locateTarget path with
  | .error error => .error error
  | .ok .upOrHere => .error .fileExists
  | .ok (.entry location _) =>
    match fs.lookupTarget? location with
    | .error error => .error error
    | .ok (some _) => .error .fileExists
    | .ok none => .ok (fs.put location .directory)

/-- Makes the first path a directory, after the others from the last to the first
where a directory is missing. An existing directory is as good as a new one. What
was made before a failure stays. -/
def makeDirectories (fs : FileSystem) : List Path → Except OsError Unit × FileSystem
  | [] => (.ok (), fs)
  | path :: outer =>
    match fs.makeDirectory path with
    | .ok made => (.ok (), made)
    | .error error =>
      if error = .noSuchFile then
        match fs.makeDirectories outer with
        | (.error error, made) => (.error error, made)
        | (.ok (), outerMade) =>
          match outerMade.makeDirectory path with
          | .ok made => (.ok (), made)
          | .error error =>
            if outerMade.isDirectory path then (.ok (), outerMade) else (.error error, outerMade)
      else if fs.isDirectory path then (.ok (), fs)
      else (.error error, fs)

/-- Makes a directory with all that lead to it. The empty path needs none. -/
def makeDirectoryTree (fs : FileSystem) (path : Path) : Except OsError Unit × FileSystem :=
  fs.makeDirectories path.outward

end FileSystem
end DiagramEditor

import DiagramEditor.CommandLine.Run
import DiagramEditor.Programs.Toolbox

/-! The command line as a program. What stands at the paths that a run may touch is looked
at first, the run is worked out on that picture, and what it changed is then carried
out. Nothing is decided here. -/
namespace DiagramEditor.CommandLine

def absolutePath (location : Location) : Path := Path.fromRoot location

/-- What stands at a location. What cannot be read counts as missing. -/
def entryAt? (location : Location) : IO (Option Entry) := do
  let path := (← IO.currentDir) / absolutePath location
  if ← path.isDir then return some .directory
  try return some (.file (← IO.FS.readBinFile path).toList)
  catch _ => return none

/-- Follows names from a location on, and adds what stands there to a picture of the files. -/
def observe (files : FileSystem) (location : Location) : List String → IO FileSystem
  | [] => return files
  | name :: more => do
    if Path.isIdle name then observe files location more
    else if name = ".." then observe files location.dropLast more
    else
      let below := location ++ [name]
      match ← entryAt? below with
      | some entry => observe (files.put below entry) below more
      | none => return files

def observePath (files : FileSystem) (path : Path) : IO FileSystem :=
  observe files (files.origin path) path.names

/-- The variables of the environment. -/
def environmentVariables : IO (List (String × String)) := do
  let block ← IO.FS.readBinFile "/proc/self/environ"
  let entries := Text.split '\x00' (Utf8.decodeLossy block.toList)
  return entries.filterMap fun entry =>
    let name := entry.takeWhile (· ≠ '=')
    if name.length < entry.length then
      some (String.ofList name, String.ofList (entry.drop (name.length + 1)))
    else none

/-- Writes a changed file by way of a temporary one, and removes a file that is gone. -/
def carryOut (before after : FileSystem) : IO Unit := do
  for (location, entry) in after.entries do
    if let .file content := entry then
      if before.lookup? location ≠ some entry then
        let path := absolutePath location
        IO.FS.writeBinFile (SourceFile.temporary path) ⟨content.toArray⟩
        IO.FS.rename (SourceFile.temporary path) path
  for (location, _) in before.entries do
    if (after.lookup? location).isNone then
      try IO.FS.removeFile (absolutePath location) catch _ => pure ()

def noticeText (notice : Notice) : String :=
  match notice with
  | .plain _ => notice.body
  | .info _ => "[INFO] " ++ notice.body
  | .error _ => "[ERROR] " ++ notice.body

/-- The machine on which a run takes place. The input is read only if the run wants it. -/
def observeMachine (arguments : List String) : IO Machine := do
  let environment : Environment := { bindings := ← environmentVariables }
  let here := Path.components (← IO.currentDir).toString
  let files ← observePath (.fresh here) (Config.defaultPath environment)
  let (files, stdin) ← match (parseArguments arguments).toOption with
    | none => pure (files, [])
    | some { file? := none, .. } => do
      let input ← IO.FS.readBinFile "/dev/stdin"
      pure (files, input.toList)
    | some { file? := some path, .. } => do
      let files ← observePath files path
      pure (← observePath files (SourceFile.temporary path), [])
  return ⟨files, environment, stdin, Toolbox.programs files environment⟩

def runProgram (arguments : List String) : IO UInt32 := do
  let machine ← observeMachine arguments
  let report := run machine (← IO.appPath).toString arguments
  carryOut machine.files report.files
  (← IO.getStdout).putStr (String.ofList report.stdout)
  for notice in report.notices do
    (← IO.getStderr).putStrLn (noticeText notice)
  return UInt32.ofNat report.exitCode

end DiagramEditor.CommandLine

def main (arguments : List String) : IO UInt32 := DiagramEditor.CommandLine.runProgram arguments

import DiagramEditor.Config.Document
import DiagramEditor.Config.Expansion
import DiagramEditor.Host.FileSystem

/-! The file that holds the settings. Loading expands the render command; saving writes
the settings as they are, so a loaded command is saved in its expanded form. -/
namespace DiagramEditor.Config

/-- Where the settings are kept. -/
def defaultPath (environment : Environment) : Path :=
  Path.child
    (String.ofList (Expansion.tilde environment "~/.config/mermaid-editor".toList)) "config.toml"

/-- The settings with the render command expanded. -/
def expandCommand (environment : Environment) (config : Config) : Config :=
  { config with
    render := { config.render with
      command := Expansion.command environment config.render.command } }

/-- Loads the settings of a file; none if there is no such file. -/
def load (fs : FileSystem) (environment : Environment) (path : Path) :
    Except ConfigError (Option Config) :=
  if fs.pathExists path then
    match fs.readText path with
    | .error error => .error (.unreadable path error)
    | .ok document =>
      match ofDocument? document with
      | some config => .ok (some (config.expandCommand environment))
      | none => .error (.malformed path)
  else .ok none

/-- Loads the settings from their usual place, or takes the defaults. -/
def loadOrDefault (fs : FileSystem) (environment : Environment) : Except ConfigError Config :=
  (load fs environment (defaultPath environment)).map (·.getD {})

/-- Saves the settings to a file, and makes the directories that lead to it. -/
def save (fs : FileSystem) (path : Path) (config : Config) : Except OsError Unit × FileSystem :=
  match path.parent? with
  | some parent =>
    match fs.makeDirectoryTree parent with
    | (.error error, made) => (.error error, made)
    | (.ok (), made) => write made
  | none => write fs
where
  /-- Writes the document itself. -/
  write (fs : FileSystem) : Except OsError Unit × FileSystem :=
    match fs.writeFile path config.toDocument.toUtf8 with
    | .ok written => (.ok (), written)
    | .error (error, left) => (.error error, left)

end DiagramEditor.Config

import DiagramEditor.Format.Options
import DiagramEditor.Highlight.Theme
import DiagramEditor.Host.OsError
import DiagramEditor.Host.Path

/-! Settings of the editor: how to format, how to render, and colours that replace those
of the built-in theme. Any numbers and texts may be set; whether they make sense is
found out when they are put to use. -/
namespace DiagramEditor

structure FormatSettings where
  indentSize : Nat := 2
deriving DecidableEq, Repr, Inhabited

/-- The program that reads a source and writes SVG, and how long edits have to be quiet
before it runs. -/
structure RenderSettings where
  command : String := "mmdc"
  args : List String := ["-i", "-", "-o", "-", "-e", "svg"]
  debounceMs : Nat := 300
deriving DecidableEq, Repr, Inhabited

/-- Colours to use instead of the built-in ones. -/
structure ThemeSettings where
  keyword? : Option String := none
  operator? : Option String := none
  bracket? : Option String := none
  string? : Option String := none
  variableName? : Option String := none
  number? : Option String := none
deriving DecidableEq, Repr, Inhabited

/-- Each class of tokens with the colour that is set for it. -/
def ThemeSettings.overrides (settings : ThemeSettings) : List (Category × Option String) :=
  [(.keyword, settings.keyword?), (.operator, settings.operator?), (.bracket, settings.bracket?),
   (.string, settings.string?), (.identifier, settings.variableName?),
   (.number, settings.number?)]

structure Config where
  format : FormatSettings := {}
  render : RenderSettings := {}
  theme : ThemeSettings := {}
deriving DecidableEq, Repr, Inhabited

inductive ConfigError where
  | unreadable (path : Path) (error : OsError)
  /-- The parser's account of the place and the cause, with which the message goes on, is left
  out. -/
  | malformed (path : Path)
  | invalidColor (tag : String) (error : ColorError)
deriving DecidableEq, Repr

def ConfigError.message : ConfigError → String
  | unreadable path error => s!"Failed to read config file at {path}: {error.message}"
  | malformed path => s!"Failed to parse config file at {path}"
  | invalidColor tag error => s!"Invalid theme colour for {tag}: {error.message}"

/-- The theme with one more colour replaced. -/
def Theme.override (theme : Theme) (category : Category) (value? : Option String) :
    Except ConfigError Theme :=
  match value? with
  | none => .ok theme
  | some value =>
    match Rgb.parse value with
    | .ok color => .ok (theme.setColor category color)
    | .error error => .error (.invalidColor (category.tag?.getD "plain") error)

namespace Config

def formatOptions (config : Config) : Except FormatError FormatOptions :=
  FormatOptions.ofSize config.format.indentSize

/-- The built-in theme with the colours that are set. The first that is no colour is
the error. -/
def highlightTheme (config : Config) : Except ConfigError Theme :=
  config.theme.overrides.foldlM (fun theme (category, value?) => theme.override category value?)
    Theme.monokai

end Config
end DiagramEditor

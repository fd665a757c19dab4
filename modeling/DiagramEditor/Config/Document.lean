import DiagramEditor.Config.Basic
import DiagramEditor.Toml.Reader
import DiagramEditor.Toml.Writer

/-! Settings as a TOML document, with one table for each group of settings. A setting that
is missing has its default. A group may also be written as an array of its settings in
their order, of which the last may be missing, or as a date or a time, which holds none.
What is not a setting is passed over; under a key of its own it still has to be readable,
but what follows the settings in an array is not looked at. -/
namespace DiagramEditor

namespace Toml

mutual

/-- Whether every number in a value has a value. -/
def Value.isReadable : Value → Bool
  | .valueless => false
  | .array items => itemsReadable items
  | .table entries => entriesReadable entries
  | _ => true

def itemsReadable : List Value → Bool
  | [] => true
  | item :: more => item.isReadable && itemsReadable more

def entriesReadable : List (String × Value) → Bool
  | [] => true
  | (_, value) :: more => value.isReadable && entriesReadable more

end

/-- A natural number of at most 64 bits. -/
def Value.natural? : Value → Option Nat
  | .integer (.ofNat n) => if n ≤ 0xFFFFFFFFFFFFFFFF then some n else none
  | _ => none

def Value.string? : Value → Option String
  | .string text => some text
  | _ => none

def Value.strings? : Value → Option (List String)
  | .array items => items.mapM Value.string?
  | _ => none

/-- The settings of a group by their names. -/
def Value.settings? (names : List String) : Value → Option (String → Option Value)
  | .table entries =>
    if entries.all fun (name, value) => names.contains name || value.isReadable then
      some (entries.lookup ·)
    else none
  | .array items => some fun name => items[names.idxOf name]?
  | .dateTime => some fun _ => none
  | _ => none

/-- Reads a setting, which has a default. -/
def settingOr {α : Type} (default : α) (read : Value → Option α) : Option Value → Option α
  | none => some default
  | some value => read value

end Toml

open Toml

def FormatSettings.ofValue? (value : Value) : Option FormatSettings := do
  let setting ← value.settings? ["indent_size"]
  let standard : FormatSettings := {}
  let indentSize ← settingOr standard.indentSize Value.natural? (setting "indent_size")
  some { indentSize := indentSize }

def RenderSettings.ofValue? (value : Value) : Option RenderSettings := do
  let setting ← value.settings? ["command", "args", "debounce_ms"]
  let standard : RenderSettings := {}
  let command ← settingOr standard.command Value.string? (setting "command")
  let args ← settingOr standard.args Value.strings? (setting "args")
  let debounceMs ← settingOr standard.debounceMs Value.natural? (setting "debounce_ms")
  some { command := command, args := args, debounceMs := debounceMs }

def ThemeSettings.ofValue? (value : Value) : Option ThemeSettings := do
  let setting ← value.settings? ["keyword", "operator", "bracket", "string", "variable", "number"]
  let color (name : String) : Option (Option String) :=
    settingOr none (fun value => value.string?.map some) (setting name)
  let keyword? ← color "keyword"
  let operator? ← color "operator"
  let bracket? ← color "bracket"
  let string? ← color "string"
  let variableName? ← color "variable"
  let number? ← color "number"
  some ⟨keyword?, operator?, bracket?, string?, variableName?, number?⟩

namespace Config

/-- The settings that a document holds; none if it is no TOML, or a setting has a value
of the wrong kind. -/
def ofDocument? (document : Text) : Option Config := do
  let entries ← Toml.read? document
  let group ← (Value.table entries).settings? ["format", "render", "theme"]
  let format ← settingOr {} FormatSettings.ofValue? (group "format")
  let render ← settingOr {} RenderSettings.ofValue? (group "render")
  let theme ← settingOr {} ThemeSettings.ofValue? (group "theme")
  some { format := format, render := render, theme := theme }

/-- The groups of settings as they are written. Colours that are not set are left out. -/
def sections (config : Config) : List Toml.Section :=
  [⟨"format", [("indent_size", .integer config.format.indentSize)]⟩,
   ⟨"render", [("command", .string config.render.command), ("args", .strings config.render.args),
    ("debounce_ms", .integer config.render.debounceMs)]⟩,
   ⟨"theme", config.theme.overrides.filterMap fun (category, value?) =>
    category.tag?.bind fun tag => value?.map fun value => (tag, .string value)⟩]

def toDocument (config : Config) : Text := Toml.writeSections config.sections

end Config
end DiagramEditor

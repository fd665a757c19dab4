import DiagramEditor.Config.Store
import DiagramEditor.Proofs.Config.Document
import DiagramEditor.Proofs.Host.FileSystem
import DiagramEditor.Proofs.Text.Utf8

/-! Settings survive in their file: what was saved is loaded again, with the render command
expanded. Each time settings are loaded the command is expanded once more, so a saved
command comes back as it was exactly if expanding it changes nothing. -/
namespace DiagramEditor

namespace Expansion

variable {environment : Environment} {written : Text}

theorem replaceVariables?_of_not_mem (noDollar : '$' ∉ written) :
    replaceVariables? environment written = some written := by
  induction written with
  | nil => rw [replaceVariables?]
  | cons c rest ih =>
    rw [List.mem_cons, not_or] at noDollar
    rw [replaceVariables?, ih noDollar.2, Option.map_some]
    all_goals simp [Ne.symm noDollar.1]

theorem expand?_of_plain (noDollar : '$' ∉ written) (noTilde : written.head? ≠ some '~') :
    expand? environment written = some written := by
  rw [expand?, replaceVariables?_of_not_mem noDollar, Option.map_some, if_neg noTilde]

end Expansion

namespace Config

variable {fs later saved : FileSystem} {environment : Environment} {path target : Path}
  {config : Config}

theorem readText_write (wrote : save.write path config fs = (.ok (), saved)) :
    saved.readText path = .ok config.toDocument := by
  rw [save.write] at wrote
  split at wrote
  · rename_i written writes
    obtain rfl := (Prod.mk.inj wrote).2
    obtain ⟨location, place, rfl⟩ := FileSystem.filePlace_of_writeFile writes
    have holds := (place.put config.toDocument.toUtf8).stat
      (FileSystem.lookup?_put_self place.ne_nil)
    rw [FileSystem.readText, FileSystem.readFile_eq_ok.mpr holds]
    simp only [Utf8.decode_eq_ok_iff.mpr rfl]
  · cases wrote

/-- The directories that are made on the way do not matter: the document stands in the file. -/
theorem readText_save (success : save fs path config = (.ok (), saved)) :
    saved.readText path = .ok config.toDocument := by
  rw [save] at success
  split at success
  · split at success
    · cases success
    · exact readText_write success
  · exact readText_write success

theorem pathExists_of_readText {document : Text} (held : fs.readText path = .ok document) :
    fs.pathExists path := by
  rw [FileSystem.readText] at held
  split at held
  · cases held
  · rename_i content read
    rw [FileSystem.pathExists, FileSystem.readFile_eq_ok.mp read]
    rfl

theorem load_eq_ok_some :
    load fs environment path = .ok (some config) ↔
      ∃ document written, fs.readText path = .ok document ∧ ofDocument? document = some written ∧
        config = written.expandCommand environment := by
  rw [load]
  constructor
  · intro loaded
    split at loaded
    · split at loaded
      · cases loaded
      · rename_i document held
        split at loaded
        · rename_i written read
          exact ⟨document, written, held, read, (Option.some.inj (Except.ok.inj loaded)).symm⟩
        · cases loaded
    · cases loaded
  · rintro ⟨document, written, held, read, rfl⟩
    rw [if_pos (pathExists_of_readText held), held]
    simp only [read]

theorem load_of_save (fits : config.Fits) (success : save fs path config = (.ok (), saved))
    (environment : Environment) :
    load saved environment path = .ok (some (config.expandCommand environment)) :=
  load_eq_ok_some.mpr
    ⟨config.toDocument, config, readText_save success, ofDocument?_toDocument fits, rfl⟩

theorem fits_of_load (loaded : load fs environment path = .ok (some config)) : config.Fits := by
  obtain ⟨document, written, -, read, rfl⟩ := load_eq_ok_some.mp loaded
  obtain ⟨indentSize, debounceMs⟩ := fits_of_ofDocument? read
  exact ⟨indentSize, debounceMs⟩

theorem expandCommand_eq (environment : Environment) (config : Config) :
    config.expandCommand environment =
      { config with
        render := { config.render with
          command := match Expansion.expand? environment config.render.command.toList with
            | some expanded => String.ofList expanded
            | none => config.render.command } } := by
  rw [expandCommand, Expansion.command]
  cases Expansion.expand? environment config.render.command.toList <;> rfl

/-- Expansion leaves settings as they are if the command is its own expansion or has none. -/
theorem expandCommand_eq_self_iff :
    config.expandCommand environment = config ↔
      ∀ expanded, Expansion.expand? environment config.render.command.toList = some expanded →
        expanded = config.render.command.toList := by
  have whole : config.expandCommand environment = config ↔
      Expansion.command environment config.render.command = config.render.command := by
    constructor
    · intro same
      exact congrArg (·.render.command) same
    · intro same
      rw [expandCommand, same]
  rw [whole, Expansion.command]
  cases Expansion.expand? environment config.render.command.toList with
  | none => simp
  | some expanded =>
    simp only [Option.map_some, Option.getD_some, Option.some.injEq, forall_eq']
    exact ⟨fun same => by rw [← same, String.toList_ofList],
      fun same => by rw [same, String.ofList_toList]⟩

/-- Saved settings are loaded again as they were, but with the render command expanded, or
left as it is where it cannot be expanded. -/
theorem load_save (indentSize : config.format.indentSize ≤ 0xFFFFFFFFFFFFFFFF)
    (debounceMs : config.render.debounceMs ≤ 0xFFFFFFFFFFFFFFFF)
    (success : save fs path config = (.ok (), saved)) (environment : Environment) :
    load saved environment path = .ok (some
      { config with
        render := { config.render with
          command := match Expansion.expand? environment config.render.command.toList with
            | some expanded => String.ofList expanded
            | none => config.render.command } }) := by
  rw [← expandCommand_eq]
  exact load_of_save ⟨indentSize, debounceMs⟩ success environment

/-- An environment in which one variable stands for the text of another. -/
def traveller : Environment where
  bindings := [("HOME", "/home/me"), ("TOOL", "$MERMAID")]

/-- Settings whose strings need one form of quotes each, and some no form without escapes. -/
def unruly : Config where
  format := { indentSize := 0 }
  render :=
    { command := "~/$TOOL", args := ["C:\\mmdc", "'\"'\"\"\"", "a\r\nb\t", "\x00"],
      debounceMs := 0xFFFFFFFFFFFFFFFF }
  theme := { string? := some "'''", number? := some "" }

theorem load_save_of_unruly :
    ∃ saved, save (FileSystem.fresh []) "conf/config.toml" unruly = (.ok (), saved) ∧
      load saved traveller "conf/config.toml" = .ok (some
        { unruly with render := { unruly.render with command := "/home/me/$MERMAID" } }) := by
  have success : save (FileSystem.fresh []) "conf/config.toml" unruly =
      (.ok (), (save (FileSystem.fresh []) "conf/config.toml" unruly).2) := rfl
  have expands : Expansion.expand? traveller unruly.render.command.toList =
      some "/home/me/$MERMAID".toList := by decide +kernel
  have loaded := load_save (by decide) (by decide) success traveller
  simp only [expands, String.ofList_toList] at loaded
  exact ⟨_, success, loaded⟩

/-- Settings that were loaded and saved are loaded again as they are, but for the command,
which is expanded once more. They come back unchanged exactly if that changes nothing, as it
does not where a variable is unset, or where the command has neither a dollar sign nor a
tilde at its start. -/
theorem load_save_load (loaded : load fs environment path = .ok (some config))
    (success : save later target config = (.ok (), saved)) :
    load saved environment target = .ok (some
      { config with
        render := { config.render with
          command := match Expansion.expand? environment config.render.command.toList with
            | some expanded => String.ofList expanded
            | none => config.render.command } }) ∧
    (load saved environment target = .ok (some config) ↔
      ∀ expanded, Expansion.expand? environment config.render.command.toList = some expanded →
        expanded = config.render.command.toList) ∧
    ('$' ∉ config.render.command.toList → config.render.command.toList.head? ≠ some '~' →
      load saved environment target = .ok (some config)) := by
  have again := load_of_save (fits_of_load loaded) success environment
  have stable : load saved environment target = .ok (some config) ↔
      ∀ expanded, Expansion.expand? environment config.render.command.toList = some expanded →
        expanded = config.render.command.toList := by
    rw [again, Except.ok.injEq, Option.some.injEq]
    exact expandCommand_eq_self_iff
  refine ⟨again.trans (by rw [expandCommand_eq]), stable, fun noDollar noTilde => ?_⟩
  refine stable.mpr fun expanded expands => ?_
  rw [Expansion.expand?_of_plain noDollar noTilde] at expands
  exact (Option.some.inj expands).symm

/-- The default settings with another render command. -/
def running (command : String) : Config where
  render := { command := command }

/-- The file that holds the settings with a command, and nothing else. -/
def holding (command : String) : FileSystem :=
  (save (FileSystem.fresh []) "config.toml" (running command)).2

theorem load_holding {written : String} {expanded : Text}
    (expands : Expansion.expand? traveller written.toList = some expanded) :
    load (holding written) traveller "config.toml" =
      .ok (some (running (String.ofList expanded))) := by
  have fits : (running written).Fits :=
    ⟨(by decide : 2 ≤ 0xFFFFFFFFFFFFFFFF), (by decide : 300 ≤ 0xFFFFFFFFFFFFFFFF)⟩
  have success : save (FileSystem.fresh []) "config.toml" (running written) =
      (.ok (), holding written) := rfl
  have loaded := load_of_save fits success traveller
  rw [expandCommand_eq] at loaded
  simpa only [running, expands] using loaded

theorem load_save_load_of_tilde :
    ∃ saved,
      load (holding "~/mmdc") traveller "config.toml" = .ok (some (running "/home/me/mmdc")) ∧
      save (holding "~/mmdc") "config.toml" (running "/home/me/mmdc") = (.ok (), saved) ∧
      load saved traveller "config.toml" = .ok (some (running "/home/me/mmdc")) := by
  have loaded : load (holding "~/mmdc") traveller "config.toml" =
      .ok (some (running "/home/me/mmdc")) := load_holding (by decide +kernel)
  have success : save (holding "~/mmdc") "config.toml" (running "/home/me/mmdc") =
      (.ok (), (save (holding "~/mmdc") "config.toml" (running "/home/me/mmdc")).2) := rfl
  exact ⟨_, loaded, success, (load_save_load loaded success).2.2 (by decide) (by decide)⟩

/-- A command that was written with two dollar signs comes back expanded. -/
theorem not_forall_load_save_load : ¬ ∀ (fs saved : FileSystem) (environment : Environment)
    (path target : Path) (config : Config),
    load fs environment path = .ok (some config) → save fs target config = (.ok (), saved) →
      load saved environment target = .ok (some config) := by
  intro stable
  have first : load (holding "$$HOME") traveller "config.toml" = .ok (some (running "$HOME")) :=
    load_holding (by decide +kernel)
  have success : save (holding "$$HOME") "config.toml" (running "$HOME") =
      (.ok (), holding "$HOME") := rfl
  have second : load (holding "$HOME") traveller "config.toml" = .ok (some (running "/home/me")) :=
    load_holding (by decide +kernel)
  have same := stable _ _ _ _ _ _ first success
  rw [second] at same
  have other : running "/home/me" ≠ running "$HOME" := by decide
  exact other (Option.some.inj (Except.ok.inj same))

end Config
end DiagramEditor

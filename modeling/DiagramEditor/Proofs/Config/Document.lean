import DiagramEditor.Config.Document
import DiagramEditor.Proofs.Toml.Document

/-! Settings are read back from the document that they were written as. The numbers have to
be natural numbers of 64 bits; the strings may hold anything, and any of the colours may
be missing. -/
namespace DiagramEditor

namespace Toml

/-! ### Fields that may be missing -/

section Present

variable {α β : Type} {make : α → β} {name : String} {value? : Option α}
  {named : List (String × Option α)}

/-- What is made of the values that are there, under their names. -/
def present (make : α → β) (named : List (String × Option α)) : List (String × β) :=
  named.filterMap fun (name, value?) => value?.map fun value => (name, make value)

theorem map_fst_present_sublist (make : α → β) (named : List (String × Option α)) :
    ((present make named).map Prod.fst).Sublist (named.map Prod.fst) := by
  induction named with
  | nil => exact .slnil
  | cons field named ih =>
    obtain ⟨name, value?⟩ := field
    cases value? with
    | none => exact .cons name ih
    | some value => exact .cons_cons name ih

theorem lookup_present (distinct : (named.map Prod.fst).Nodup) (member : (name, value?) ∈ named) :
    (present make named).lookup name = value?.map make := by
  induction named with
  | nil => cases member
  | cons field named ih =>
    obtain ⟨other, first?⟩ := field
    obtain ⟨fresh, others⟩ := List.nodup_cons.mp distinct
    rcases List.mem_cons.mp member with first | later
    · obtain ⟨rfl, rfl⟩ := Prod.mk.inj first
      cases value? with
      | none =>
        exact lookup_eq_none_of_not_mem fun found =>
          fresh ((map_fst_present_sublist make named).mem found)
      | some value => exact List.lookup_cons_self
    · have apart : name ≠ other := by
        rintro rfl
        exact fresh (List.mem_map.mpr ⟨_, later, rfl⟩)
      cases first? with
      | none => exact ih others later
      | some first =>
        have missed : (name == other) = false := beq_eq_false_iff_ne.mpr apart
        change List.lookup name ((other, make first) :: present make named) = _
        rw [List.lookup_cons, missed]
        exact ih others later

end Present

/-- The settings of a table that has names of settings only. -/
theorem Value.settings?_table {entries : List (String × Value)} {names : List String}
    (known : (entries.map Prod.fst).Sublist names) :
    Value.settings? names (.table entries) = some (entries.lookup ·) := by
  refine if_pos (List.all_eq_true.mpr fun entry member => ?_)
  have inside := known.mem (List.mem_map_of_mem member)
  simp [inside]

theorem Value.natural?_integer {n : Nat} (fits : n ≤ 0xFFFFFFFFFFFFFFFF) :
    Value.natural? (.integer n) = some n :=
  if_pos fits

theorem le_of_settingOr_natural? {standard n : Nat} {setting? : Option Value}
    (small : standard ≤ 0xFFFFFFFFFFFFFFFF)
    (read : settingOr standard Value.natural? setting? = some n) : n ≤ 0xFFFFFFFFFFFFFFFF := by
  cases setting? with
  | none =>
    obtain rfl := Option.some.inj read
    exact small
  | some value =>
    change Value.natural? value = some n at read
    unfold Value.natural? at read
    split at read
    · split at read
      · rename_i fits
        obtain rfl := Option.some.inj read
        exact fits
      · cases read
    · cases read

theorem Value.strings?_array (items : List String) :
    Value.strings? (.array (items.map .string)) = some items := by
  rw [Value.strings?]
  induction items with
  | nil => rfl
  | cons item items ih =>
    rw [List.map_cons, List.mapM_cons, ih]
    rfl

end Toml

open Toml

namespace ThemeSettings

/-- The colours under the names that they have in documents. -/
def named (settings : ThemeSettings) : List (String × Option String) :=
  [("keyword", settings.keyword?), ("operator", settings.operator?),
   ("bracket", settings.bracket?), ("string", settings.string?),
   ("variable", settings.variableName?), ("number", settings.number?)]

theorem isBareKey_of_mem_named (settings : ThemeSettings) :
    ∀ name ∈ settings.named.map Prod.fst, IsBareKey name :=
  (by decide : ∀ name ∈ ["keyword", "operator", "bracket", "string", "variable", "number"],
    IsBareKey name)

theorem nodup_named (settings : ThemeSettings) : (settings.named.map Prod.fst).Nodup :=
  (by decide : ["keyword", "operator", "bracket", "string", "variable", "number"].Nodup)

theorem ofValue?_present (settings : ThemeSettings) :
    ofValue? (.table (present .string settings.named)) = some settings := by
  have color : ∀ field ∈ settings.named, settingOr none (fun value => value.string?.map some)
      ((present Value.string settings.named).lookup field.1) = some field.2 := by
    intro field member
    rw [lookup_present settings.nodup_named member]
    cases field.2 <;> rfl
  rw [ofValue?, Value.settings?_table]
  · generalize present Value.string settings.named = entries at color ⊢
    simp only [named, List.forall_mem_cons] at color
    obtain ⟨keyword, operator, bracket, string, variableName, number, -⟩ := color
    simp only [Option.bind_eq_bind, Option.bind_some, keyword, operator, bracket, string,
      variableName, number]
  · exact map_fst_present_sublist _ settings.named

end ThemeSettings

namespace Config

variable {config : Config}

/-- The numbers of the settings have 64 bits. -/
structure Fits (config : Config) : Prop where
  indentSize : config.format.indentSize ≤ 0xFFFFFFFFFFFFFFFF
  debounceMs : config.render.debounceMs ≤ 0xFFFFFFFFFFFFFFFF

theorem sections_eq (config : Config) :
    config.sections =
      [⟨"format", [("indent_size", .integer config.format.indentSize)]⟩,
       ⟨"render", [("command", .string config.render.command),
        ("args", .strings config.render.args), ("debounce_ms", .integer config.render.debounceMs)]⟩,
       ⟨"theme", present .string config.theme.named⟩] := by
  simp only [sections, present, ThemeSettings.overrides, ThemeSettings.named, Category.tag?,
    List.filterMap_cons, Option.bind_some]
  rfl

theorem isPlain_sections (fits : config.Fits) : ∀ table ∈ config.sections, table.IsPlain := by
  rw [sections_eq]
  intro table member
  simp only [List.mem_cons, List.not_mem_nil, or_false] at member
  obtain rfl | rfl | rfl := member
  · refine ⟨(by decide : IsBareKey "format"), ?_, ?_, (by decide : ["indent_size"].Nodup)⟩
    · exact (by decide : ∀ key ∈ ["indent_size"], IsBareKey key)
    · simpa [Field.Fits] using fits.indentSize.trans (by decide)
  · refine ⟨(by decide : IsBareKey "render"), ?_, ?_,
      (by decide : ["command", "args", "debounce_ms"].Nodup)⟩
    · exact (by decide : ∀ key ∈ ["command", "args", "debounce_ms"], IsBareKey key)
    · simpa [Field.Fits] using fits.debounceMs.trans (by decide)
  · have inside := map_fst_present_sublist Field.string config.theme.named
    refine ⟨(by decide : IsBareKey "theme"), ?_, ?_, config.theme.nodup_named.sublist inside⟩
    · exact fun key member => config.theme.isBareKey_of_mem_named key (inside.mem member)
    · intro field member
      obtain ⟨_, _, made⟩ := List.mem_filterMap.mp member
      obtain ⟨_, _, rfl⟩ := Option.map_eq_some_iff.mp made
      trivial

theorem ofValue?_format (fits : config.Fits) :
    FormatSettings.ofValue? (.table [("indent_size", .integer config.format.indentSize)]) =
      some config.format := by
  rw [FormatSettings.ofValue?, Value.settings?_table]
  · simp only [Option.bind_eq_bind, Option.bind_some, List.lookup_cons_self, settingOr,
      Value.natural?_integer fits.indentSize]
  · exact .refl _

theorem ofValue?_render (fits : config.Fits) :
    RenderSettings.ofValue? (.table [("command", .string config.render.command),
      ("args", .array (config.render.args.map .string)),
      ("debounce_ms", .integer config.render.debounceMs)]) = some config.render := by
  rw [RenderSettings.ofValue?, Value.settings?_table]
  · simp [settingOr, List.lookup_cons, Value.natural?_integer fits.debounceMs, Value.string?,
      Value.strings?_array]
  · exact .refl _

theorem ofDocument?_toDocument (fits : config.Fits) :
    ofDocument? config.toDocument = some config := by
  have distinct : (config.sections.map Section.name).Nodup := by
    rw [sections_eq]
    exact (by decide : ["format", "render", "theme"].Nodup)
  have colors : (Section.mk "theme" (present .string config.theme.named)).entries =
      present .string config.theme.named := by
    rw [Section.entries, present, List.map_filterMap]
    simp only [present, Option.map_map]
    rfl
  rw [ofDocument?, toDocument, read?_writeSections (isPlain_sections fits) distinct, sections_eq]
  simp only [List.map_cons, List.map_nil, colors, Option.bind_eq_bind, Option.bind_some]
  rw [Value.settings?_table]
  · simp [List.lookup_cons, settingOr, Section.entries, Field.toValue, ofValue?_format fits,
      ofValue?_render fits, ThemeSettings.ofValue?_present]
  · exact .refl _

/-- The groups have readable numbers as soon as they were read, or are missing. -/
theorem indentSize_le {setting? : Option Value} {format : FormatSettings}
    (read : settingOr {} FormatSettings.ofValue? setting? = some format) :
    format.indentSize ≤ 0xFFFFFFFFFFFFFFFF := by
  cases setting? with
  | none =>
    obtain rfl := Option.some.inj read
    decide
  | some value =>
    simp only [settingOr, FormatSettings.ofValue?, Option.bind_eq_bind,
      Option.bind_eq_some_iff] at read
    obtain ⟨setting, -, indentSize, found, made⟩ := read
    obtain rfl := Option.some.inj made
    exact le_of_settingOr_natural? (by decide) found

theorem debounceMs_le {setting? : Option Value} {render : RenderSettings}
    (read : settingOr {} RenderSettings.ofValue? setting? = some render) :
    render.debounceMs ≤ 0xFFFFFFFFFFFFFFFF := by
  cases setting? with
  | none =>
    obtain rfl := Option.some.inj read
    decide
  | some value =>
    simp only [settingOr, RenderSettings.ofValue?, Option.bind_eq_bind,
      Option.bind_eq_some_iff] at read
    obtain ⟨setting, -, command, -, args, -, debounceMs, found, made⟩ := read
    obtain rfl := Option.some.inj made
    exact le_of_settingOr_natural? (by decide) found

theorem fits_of_ofDocument? {document : Text} (read : ofDocument? document = some config) :
    config.Fits := by
  simp only [ofDocument?, Option.bind_eq_bind, Option.bind_eq_some_iff] at read
  obtain ⟨entries, -, group, -, format, readFormat, render, readRender, theme, -, made⟩ := read
  obtain rfl := Option.some.inj made
  exact ⟨indentSize_le readFormat, debounceMs_le readRender⟩

end Config
end DiagramEditor

import DiagramEditor.Config.Basic

/-! Themes with colours of their own. The settings are gone through class by class in a fixed
order. A text that is set replaces the colour of its class and no other, so each colour depends
on one setting only, and the first text that is no colour decides the error. -/
namespace DiagramEditor

/-- The text that is set for the colour of a class. -/
def ThemeSettings.text? (settings : ThemeSettings) : Category → Option String
  | .keyword => settings.keyword?
  | .operator => settings.operator?
  | .bracket => settings.bracket?
  | .string => settings.string?
  | .identifier => settings.variableName?
  | .number => settings.number?
  | .plain => none

/-- The settings by their tags, in the order in which they are gone through. -/
def ThemeSettings.tagged (settings : ThemeSettings) : List (String × Option String) :=
  [("keyword", settings.keyword?), ("operator", settings.operator?),
   ("bracket", settings.bracket?), ("string", settings.string?),
   ("variable", settings.variableName?), ("number", settings.number?)]

/-- What is set, if anything, is a colour. -/
def IsColorIfSet (value? : Option String) : Prop :=
  ∀ text, value? = some text → ∃ color, Rgb.parse text = .ok color

/-- Of the settings that are no colours the first has this tag, and the cause is what reading
its text ends with. -/
def FirstRefused (settings : List (String × Option String)) (tag : String) (cause : ColorError) :
    Prop :=
  ∃ before text behind, settings = before ++ (tag, some text) :: behind ∧
    (∀ setting ∈ before, IsColorIfSet setting.2) ∧ Rgb.parse text = .error cause

/-- The classes have the colours that are set for them, and all else is as in the base theme. -/
structure Theme.Overrides (theme base : Theme) (settings : ThemeSettings)
    (categories : List Category) : Prop where
  replaced : ∀ category ∈ categories, ∀ text, settings.text? category = some text →
    ∃ color, Rgb.parse text = .ok color ∧ theme.color? category = some color
  kept : ∀ category, (category ∈ categories → settings.text? category = none) →
    theme.color? category = base.color? category
  background : theme.background = base.background
  foreground : theme.foreground = base.foreground

variable {settings : ThemeSettings} {theme base next : Theme} {category first : Category}
  {categories more : List Category} {entries : List (String × Option String)}
  {value? : Option String} {error : ConfigError} {text tag name : String} {cause : ColorError}

section Steps

theorem Theme.override_eq_ok :
    base.override category value? = .ok next ↔
      value? = none ∧ next = base ∨
        ∃ text color, value? = some text ∧ Rgb.parse text = .ok color ∧
          next = base.setColor category color := by
  cases value? with
  | none => simp [override, eq_comm]
  | some text => cases read : Rgb.parse text <;> simp [override, read, eq_comm]

theorem Theme.override_eq_error :
    base.override category value? = .error error ↔
      ∃ text cause, value? = some text ∧ Rgb.parse text = .error cause ∧
        error = .invalidColor (category.tag?.getD "plain") cause := by
  cases value? with
  | none => simp [override]
  | some text => cases read : Rgb.parse text <;> simp [override, read, eq_comm]

theorem isColorIfSet_of_override (done : base.override category value? = .ok next) :
    IsColorIfSet value? := by
  rcases Theme.override_eq_ok.mp done with ⟨rfl, -⟩ | ⟨text, color, rfl, read, -⟩
  · exact nofun
  · intro other same
    cases same
    exact ⟨color, read⟩

theorem IsColorIfSet.parse_ne_error (fine : IsColorIfSet (some text)) :
    Rgb.parse text ≠ .error cause := by
  obtain ⟨color, read⟩ := fine text rfl
  rw [read]
  exact nofun

end Steps

section Rows

/-- The theme with the colours that are set for some classes, one after the other. -/
def Theme.overrideAll (base : Theme) (settings : ThemeSettings) (categories : List Category) :
    Except ConfigError Theme :=
  categories.foldlM (fun theme category => theme.override category (settings.text? category)) base

theorem Theme.overrideAll_cons :
    base.overrideAll settings (first :: more) =
      (base.override first (settings.text? first)).bind (·.overrideAll settings more) :=
  List.foldlM_cons

theorem Config.highlightTheme_eq (config : Config) :
    config.highlightTheme = Theme.monokai.overrideAll config.theme Category.styled :=
  rfl

theorem Theme.Overrides.skip (rest : theme.Overrides base settings more)
    (unset : settings.text? first = none) :
    theme.Overrides base settings (first :: more) := by
  refine ⟨?_, ?_, rest.background, rest.foreground⟩
  · intro category member text set
    rcases List.mem_cons.mp member with rfl | later
    · rw [unset] at set
      cases set
    · exact rest.replaced category later text set
  · intro category free
    exact rest.kept category fun member => free (List.mem_cons_of_mem _ member)

theorem Theme.Overrides.replace {color : Rgb}
    (rest : theme.Overrides (base.setColor first color) settings more) (single : first ∉ more)
    (styled : first.isStyled) (set : settings.text? first = some text)
    (read : Rgb.parse text = .ok color) : theme.Overrides base settings (first :: more) := by
  have ends : (base.setColor first color).background = base.background ∧
      (base.setColor first color).foreground = base.foreground := by
    cases first <;> exact ⟨rfl, rfl⟩
  refine ⟨?_, ?_, rest.background.trans ends.1, rest.foreground.trans ends.2⟩
  · intro category member other found
    rcases List.mem_cons.mp member with rfl | later
    · rw [set, Option.some.injEq] at found
      subst found
      refine ⟨color, read, ?_⟩
      rw [rest.kept category (absurd · single), color?_setColor_self styled]
    · exact rest.replaced category later other found
  · intro category free
    have differ : category ≠ first := by
      rintro rfl
      rw [free List.mem_cons_self] at set
      cases set
    rw [rest.kept category fun member => free (List.mem_cons_of_mem _ member),
      color?_setColor_of_ne differ]

theorem Theme.overrides_of_overrideAll (distinct : categories.Nodup)
    (styled : ∀ category ∈ categories, category.isStyled)
    (done : base.overrideAll settings categories = .ok theme) :
    theme.Overrides base settings categories := by
  induction categories generalizing base with
  | nil =>
    cases done
    exact ⟨nofun, fun _ _ => rfl, rfl, rfl⟩
  | cons first more ih =>
    obtain ⟨single, others⟩ := List.nodup_cons.mp distinct
    obtain ⟨head, tail⟩ := List.forall_mem_cons.mp styled
    rw [overrideAll_cons] at done
    cases step : base.override first (settings.text? first) with
    | error error =>
      rw [step] at done
      cases done
    | ok next =>
      rw [step] at done
      have rest : theme.Overrides next settings more := ih others tail done
      rcases override_eq_ok.mp step with ⟨unset, rfl⟩ | ⟨text, color, set, read, rfl⟩
      · exact rest.skip unset
      · exact rest.replace single head set read

theorem firstRefused_cons :
    FirstRefused ((name, value?) :: entries) tag cause ↔
      (name = tag ∧ ∃ text, value? = some text ∧ Rgb.parse text = .error cause) ∨
        IsColorIfSet value? ∧ FirstRefused entries tag cause := by
  constructor
  · rintro ⟨before, text, behind, whole, fine, refused⟩
    cases before with
    | nil =>
      cases whole
      exact .inl ⟨rfl, text, rfl, refused⟩
    | cons first more =>
      obtain ⟨rfl, rest⟩ := List.cons.inj whole
      obtain ⟨head, tail⟩ := List.forall_mem_cons.mp fine
      exact .inr ⟨head, more, text, behind, rest, tail, refused⟩
  · rintro (⟨rfl, text, rfl, refused⟩ | ⟨head, before, text, behind, rfl, tail, refused⟩)
    · exact ⟨[], text, entries, rfl, nofun, refused⟩
    · exact ⟨(name, value?) :: before, text, behind, rfl, List.forall_mem_cons.mpr ⟨head, tail⟩,
        refused⟩

theorem FirstRefused.not_forall (refused : FirstRefused entries tag cause) :
    ¬∀ setting ∈ entries, IsColorIfSet setting.2 := by
  obtain ⟨before, text, behind, rfl, -, refused⟩ := refused
  intro fine
  exact (fine (tag, some text) (by simp)).parse_ne_error refused

/-- The setting of each class under the tag of the class. -/
def ThemeSettings.rows (settings : ThemeSettings) (categories : List Category) :
    List (String × Option String) :=
  categories.map fun category => (category.tag?.getD "plain", settings.text? category)

theorem Theme.overrideAll_eq_error :
    base.overrideAll settings categories = .error error ↔
      ∃ tag cause, error = .invalidColor tag cause ∧
        FirstRefused (settings.rows categories) tag cause := by
  induction categories generalizing base with
  | nil =>
    constructor
    · intro failed
      cases failed
    · rintro ⟨tag, cause, -, before, text, behind, whole, -⟩
      simp [ThemeSettings.rows] at whole
  | cons first more ih =>
    rw [overrideAll_cons, ThemeSettings.rows, List.map_cons]
    simp only [firstRefused_cons]
    cases step : base.override first (settings.text? first) with
    | error refused =>
      obtain ⟨text, cause, set, read, rfl⟩ := override_eq_error.mp step
      constructor
      · intro failed
        cases failed
        exact ⟨_, cause, rfl, .inl ⟨rfl, text, set, read⟩⟩
      · rintro ⟨tag, other, rfl, ⟨rfl, again, found, why⟩ | ⟨fine, -⟩⟩
        · rw [set, Option.some.injEq] at found
          subst found
          rw [read, Except.error.injEq] at why
          rw [why, Except.bind]
        · rw [set] at fine
          exact absurd read fine.parse_ne_error
    | ok next =>
      have fine := isColorIfSet_of_override step
      rw [Except.bind, ih]
      constructor
      · rintro ⟨tag, cause, rfl, later⟩
        exact ⟨tag, cause, rfl, .inr ⟨fine, later⟩⟩
      · rintro ⟨tag, cause, rfl, ⟨-, text, set, read⟩ | ⟨-, later⟩⟩
        · rw [set] at fine
          exact absurd read fine.parse_ne_error
        · exact ⟨tag, cause, rfl, later⟩

end Rows

section Whole

theorem Theme.eq_of_color? (colors : ∀ category, theme.color? category = base.color? category)
    (background : theme.background = base.background)
    (foreground : theme.foreground = base.foreground) : theme = base := by
  have keyword := colors .keyword
  have operator := colors .operator
  have bracket := colors .bracket
  have string := colors .string
  have variableName := colors .identifier
  have number := colors .number
  cases theme
  cases base
  simp_all [color?]

theorem Theme.Overrides.unique {other : Theme} (one : theme.Overrides base settings categories)
    (two : other.Overrides base settings categories) : theme = other := by
  refine eq_of_color? (fun category => ?_) (one.background.trans two.background.symm)
    (one.foreground.trans two.foreground.symm)
  by_cases free : category ∈ categories → settings.text? category = none
  · rw [one.kept category free, two.kept category free]
  · obtain ⟨member, present⟩ := Classical.not_imp.mp free
    obtain ⟨text, set⟩ := Option.ne_none_iff_exists'.mp present
    obtain ⟨color, read, first⟩ := one.replaced category member text set
    obtain ⟨color', again, second⟩ := two.replaced category member text set
    rw [read, Except.ok.injEq] at again
    rw [first, second, again]

theorem Theme.Overrides.isColorIfSet (holds : theme.Overrides base settings categories) :
    ∀ setting ∈ settings.rows categories, IsColorIfSet setting.2 := by
  intro setting member
  obtain ⟨category, listed, rfl⟩ := List.mem_map.mp member
  intro text set
  obtain ⟨color, read, -⟩ := holds.replaced category listed text set
  exact ⟨color, read⟩

/-- There is a theme exactly if all texts that are set are colours. It has these colours, each
for its class, and else those that are built in. If there is none, the first text that is no
colour is to blame. -/
theorem Config.highlightTheme_overrides (config : Config) :
    ((∃ theme, config.highlightTheme = .ok theme) ↔
      ∀ setting ∈ config.theme.tagged, IsColorIfSet setting.2) ∧
    (∀ theme, config.highlightTheme = .ok theme ↔
      theme.Overrides Theme.monokai config.theme Category.styled) ∧
    ∀ error, config.highlightTheme = .error error ↔
      ∃ tag cause, error = .invalidColor tag cause ∧
        FirstRefused config.theme.tagged tag cause := by
  have listed : config.theme.tagged = config.theme.rows Category.styled := rfl
  rw [listed]
  have errors (error : ConfigError) : config.highlightTheme = .error error ↔
      ∃ tag cause, error = .invalidColor tag cause ∧
        FirstRefused (config.theme.rows Category.styled) tag cause := by
    rw [highlightTheme_eq, Theme.overrideAll_eq_error]
  have sound (theme : Theme) (done : config.highlightTheme = .ok theme) :
      theme.Overrides Theme.monokai config.theme Category.styled :=
    Theme.overrides_of_overrideAll (by decide) (by decide) done
  have accepted : (∃ theme, config.highlightTheme = .ok theme) ↔
      ∀ setting ∈ config.theme.rows Category.styled, IsColorIfSet setting.2 := by
    constructor
    · rintro ⟨theme, done⟩
      exact (sound theme done).isColorIfSet
    · intro fine
      cases outcome : config.highlightTheme with
      | ok theme => exact ⟨theme, rfl⟩
      | error error =>
        obtain ⟨tag, cause, -, refused⟩ := (errors error).mp outcome
        exact absurd fine refused.not_forall
  refine ⟨accepted, fun theme => ⟨sound theme, fun follows => ?_⟩, errors⟩
  obtain ⟨found, done⟩ := accepted.mpr follows.isColorIfSet
  rw [done, follows.unique (sound found done)]

/-- Of two settings that are no colours the one that comes first in the order of the classes. -/
example : Config.highlightTheme { theme := { number? := some "red", string? := some "#12345g" } } =
    .error (.invalidColor "string" (.badHex "#12345g")) := rfl

end Whole
end DiagramEditor

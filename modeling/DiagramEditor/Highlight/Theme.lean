import DiagramEditor.Highlight.Color
import DiagramEditor.Syntax.Category

/-! Themes: a colour for each styled class, and the two base colours of the editor.
Plain text has no colour of its own, so asking for it finds nothing and setting it
changes nothing. -/
namespace DiagramEditor

structure Theme where
  keyword : Rgb
  operator : Rgb
  bracket : Rgb
  string : Rgb
  variableName : Rgb
  number : Rgb
  background : Rgb
  foreground : Rgb
deriving DecidableEq, Repr, Inhabited

namespace Theme

/-- The built-in dark theme. -/
def monokai : Theme where
  keyword := ⟨0xF9, 0x26, 0x72⟩
  operator := ⟨0xF9, 0x26, 0x72⟩
  bracket := ⟨0xFF, 0xFF, 0xFF⟩
  string := ⟨0xE6, 0xDB, 0x74⟩
  variableName := ⟨0x66, 0xD9, 0xEF⟩
  number := ⟨0xAE, 0x81, 0xFF⟩
  background := ⟨0x27, 0x28, 0x22⟩
  foreground := ⟨0xF8, 0xF8, 0xF2⟩

def color? (theme : Theme) : Category → Option Rgb
  | .keyword => some theme.keyword
  | .operator => some theme.operator
  | .bracket => some theme.bracket
  | .string => some theme.string
  | .identifier => some theme.variableName
  | .number => some theme.number
  | .plain => none

/-- The theme with a class's colour replaced; none for plain text. -/
def setColor? (theme : Theme) (category : Category) (color : Rgb) : Option Theme :=
  match category with
  | .keyword => some { theme with keyword := color }
  | .operator => some { theme with operator := color }
  | .bracket => some { theme with bracket := color }
  | .string => some { theme with string := color }
  | .identifier => some { theme with variableName := color }
  | .number => some { theme with number := color }
  | .plain => none

/-- The theme with a class's colour replaced, where it has one. -/
def setColor (theme : Theme) (category : Category) (color : Rgb) : Theme :=
  (theme.setColor? category color).getD theme

/-- The tag and the colour of each styled class. -/
def entries (theme : Theme) : List (String × Rgb) :=
  Category.styled.filterMap fun category =>
    category.tag?.bind fun tag => (theme.color? category).map (tag, ·)

theorem color?_setColor_self {theme : Theme} {category : Category} {color : Rgb}
    (styled : category.isStyled) :
    (theme.setColor category color).color? category = some color := by
  cases category <;> first | rfl | contradiction

theorem color?_setColor_of_ne {theme : Theme} {category other : Category} {color : Rgb}
    (differ : other ≠ category) :
    (theme.setColor category color).color? other = theme.color? other := by
  cases category <;> cases other <;> first | rfl | contradiction

end Theme
end DiagramEditor

import DiagramEditor.Text.Utf8

/-! Settings of the formatter, and the reasons why it refuses to work. -/
namespace DiagramEditor

def maxIndentSize : Nat := 16

/-- The number of spaces for one level, between one and the maximum. -/
structure FormatOptions where
  indentSize : Nat
  positive : 1 ≤ indentSize
  bounded : indentSize ≤ maxIndentSize
deriving DecidableEq, Repr

inductive FormatError where
  | invalidIndentSize (size : Nat)
  | invalidUtf8 (error : Utf8.DecodeError)
deriving DecidableEq, Repr

def FormatError.message : FormatError → String
  | invalidIndentSize size =>
    s!"Indent size must be between 1 and {maxIndentSize}, got {size}"
  | invalidUtf8 error => "Source is not valid UTF-8: " ++ error.message

namespace FormatOptions

def standard : FormatOptions := ⟨2, by decide, by decide⟩

instance : Inhabited FormatOptions := ⟨standard⟩

def ofSize (size : Nat) : Except FormatError FormatOptions :=
  if valid : 1 ≤ size ∧ size ≤ maxIndentSize then .ok ⟨size, valid.1, valid.2⟩
  else .error (.invalidIndentSize size)

end FormatOptions
end DiagramEditor

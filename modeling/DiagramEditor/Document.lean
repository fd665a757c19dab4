import DiagramEditor.Format.Indent
import DiagramEditor.Highlight.Span

/-! The document under edit: its text, the selection in it, and a version that
counts the changes. Every change is a splice. The range of a splice may be any two
numbers; both ends fall back to character boundaries of the text, and an end before
the start moves up to it. A splice that would put the same text in place changes
nothing, not even the selection. -/
namespace DiagramEditor

structure Document where
  text : Text
  selection : ByteRange
  version : Nat
deriving DecidableEq, Repr

/-- What a change did: the changed ranges of the new text, none if there was no
change, with the selection and the version behind it. -/
structure Patch where
  changed : List ByteRange
  selection : ByteRange
  version : Nat
deriving DecidableEq, Repr

def Patch.isNoop (patch : Patch) : Bool := patch.changed.isEmpty

/-- A range with both ends on boundaries of the text and in order. -/
def Text.clampRange (text : Text) (range : ByteRange) : ByteRange :=
  let start := text.floorBoundary range.start
  ⟨start, max (text.floorBoundary range.stop) start⟩

/-- The text with a range of boundaries replaced. -/
def Text.splice (text : Text) (range : ByteRange) (inserted : Text) : Text :=
  text.takeBytes range.start ++ inserted ++ text.dropBytes range.stop

namespace Document

/-- A fresh document, with the cursor at the end of the text. -/
def ofText (text : Text) : Document := ⟨text, ⟨text.size, text.size⟩, 0⟩

instance : Inhabited Document := ⟨ofText []⟩

def ofBytes (bytes : Bytes) : Except Utf8.DecodeError Document :=
  (Utf8.decode bytes).map ofText

/-- The patch of a change that found nothing to do. -/
def unchanged (document : Document) : Patch :=
  ⟨[], document.selection, document.version⟩

/-- Replaces a range by a text and puts the cursor behind that text. -/
def edit (document : Document) (range : ByteRange) (inserted : Text) : Document × Patch :=
  let target := document.text.clampRange range
  if document.text.slice target = inserted then (document, document.unchanged)
  else
    let cursor := target.start + inserted.size
    let edited : Document :=
      ⟨document.text.splice target inserted, ⟨cursor, cursor⟩, document.version + 1⟩
    (edited, ⟨[⟨target.start, cursor⟩], edited.selection, edited.version⟩)

/-- Replaces the whole text and puts the cursor at its start. -/
def replaceAll (document : Document) (text : Text) : Document × Patch :=
  let (edited, patch) := document.edit ⟨0, document.text.size⟩ text
  if patch.isNoop then (edited, patch)
  else ({ edited with selection := ⟨0, 0⟩ }, { patch with selection := ⟨0, 0⟩ })

/-- Replaces the text by its formatted form. -/
def format (document : Document) (options : FormatOptions) : Document × Patch :=
  document.replaceAll (formatSource options document.text)

def select (document : Document) (range : ByteRange) : Document :=
  { document with selection := document.text.clampRange range }

def highlight (document : Document) : List HighlightSpan :=
  DiagramEditor.highlight document.text

end Document
end DiagramEditor

import DiagramEditor.Document

/-! The changes that a document goes through, one after the other. -/
namespace DiagramEditor

inductive DocumentChange where
  | edit (range : ByteRange) (inserted : Text)
  | replaceAll (text : Text)
  | format (options : FormatOptions)
  | select (range : ByteRange)

namespace Document

/-- The document behind a change, and the patch of the change; selecting has none. -/
def change (document : Document) : DocumentChange → Document × Option Patch
  | .edit range inserted => (document.edit range inserted).map id some
  | .replaceAll text => (document.replaceAll text).map id some
  | .format options => (document.format options).map id some
  | .select range => (document.select range, none)

/-- The document behind a row of changes. -/
def run (document : Document) (changes : List DocumentChange) : Document :=
  changes.foldl (fun document next => (document.change next).1) document

end Document
end DiagramEditor

import DiagramEditor.Syntax.Token
import DiagramEditor.Text.Utf8

/-! The scanner by bytes. It tells words and rules by the bytes that it sees, adds up offsets, and
cuts pieces out between them. A cut has to lie within the text and between its characters; the
first one that does not ends the scan, and its range is the error. -/
namespace DiagramEditor

namespace Text

/-- The bytes of a text, each as the character of its number. -/
def bytewise (text : Text) : Text := text.toUtf8.map fun byte => Char.ofNat byte.toNat

/-- The offset lies behind the first byte of a character and before its end. -/
def Splits (text : Text) (offset : Nat) : Prop :=
  ∃ front c back, text = front ++ c :: back ∧ size front < offset ∧
    offset < size front + c.utf8Size

def cut (text : Text) (range : ByteRange) : Except ByteRange Text :=
  if range.start ≤ range.stop ∧ text.IsBoundary range.start ∧ text.IsBoundary range.stop then
    .ok (text.slice range)
  else .error range

/-- The bytes from an offset on, which may cut through a character. -/
def bytesFrom (text : Text) (start : Nat) : Except ByteRange Text :=
  if start ≤ text.size then .ok (text.bytewise.drop start) else .error ⟨start, text.size⟩

end Text

namespace Syntax

/-- The offset behind the word characters that begin at an offset. -/
def wordStop (rest : Text) (start : Nat) : Except ByteRange Nat := do
  let bytes ← rest.bytesFrom start
  return start + (bytes.takeWhile isWordChar).length

/-- The offset behind a hyphen and the word characters after it, if there is a hyphen. -/
def hyphenStop (rest : Text) (stop : Nat) : Except ByteRange Nat :=
  if rest.bytewise[stop]? = some '-' then wordStop rest (stop + 1) else .ok stop

/-- The width of the indent and the keyword that begin a line. -/
def keywordWidth? (rest : Text) : Except ByteRange (Option Nat) := do
  let start := rest.size - rest.trimStart.size
  let stop ← wordStop rest start
  if stop = start then return none
  let stop ← hyphenStop rest stop
  let word ← rest.cut ⟨start, stop⟩
  return if keywords.contains (String.ofList word) then some stop else none

/-- The class of the first token of a nonempty text, and its width. -/
def classifyBytes (atLineStart : Bool) (rest : Text) : Except ByteRange (Category × Nat) :=
  (if atLineStart then keywordWidth? rest else .ok none).map fun
    | some width => (.keyword, width)
    | none =>
      match matchRule? rest.bytewise with
      | some found => (found.rule.category, found.length)
      | none => (.plain, rest.head?.elim 1 Char.utf8Size)

/-- One token of a line from an offset on. There is none where the rest of the line cannot be cut
off or is empty; every cut behind that has to succeed. -/
def scanBytes (line : Text) (position : Nat) (state : ScanState) :
    Except ByteRange (Option (Token × ScanState)) := do
  match line.cut ⟨position, line.size⟩ with
  | .error _ | .ok [] => return none
  | .ok rest =>
    let (category, width) ← classifyBytes (position = 0) rest
    let span : ByteRange := ⟨position, position + width⟩
    let text ← line.cut span
    return some (⟨category, text, span⟩, state)

end Syntax
end DiagramEditor

import DiagramEditor.Text.Basic

/-! UTF-8, both ways. Reading takes one character at a time; where no character
stands, the bytes that begin one that could still have been finished count as one
bad sequence, so a bad sequence has one, two or three bytes. A strict reader stops
there and names the place; a lenient one writes a replacement character for each
bad sequence and goes on behind it. -/
namespace DiagramEditor

abbrev Bytes := List UInt8

def Text.toUtf8 (text : Text) : Bytes := text.flatMap String.utf8EncodeChar

namespace Utf8

/-- What stands at the front of a byte sequence, with its width. Where the input
ends inside a character that was good so far, the front is incomplete. -/
inductive Front where
  | character (c : Char) (width : Nat)
  | invalid (width : Nat)
  | incomplete
deriving DecidableEq, Repr

/-- What a first byte above ASCII asks for: its share of the code point, the number
of bytes to follow, and the bounds of the first of these. The bounds shut out
overlong forms, surrogates and values above the last code point. -/
structure Lead where
  value : Nat
  pending : Nat
  low : UInt8 := 0x80
  high : UInt8 := 0xBF
deriving DecidableEq, Repr

def Lead.of? (byte : UInt8) : Option Lead :=
  if 0xC2 ≤ byte ∧ byte ≤ 0xDF then some { value := byte.toNat % 32, pending := 1 }
  else if byte = 0xE0 then some { value := 0, pending := 2, low := 0xA0 }
  else if byte = 0xED then some { value := 13, pending := 2, high := 0x9F }
  else if 0xE1 ≤ byte ∧ byte ≤ 0xEF then some { value := byte.toNat % 16, pending := 2 }
  else if byte = 0xF0 then some { value := 0, pending := 3, low := 0x90 }
  else if byte = 0xF4 then some { value := 4, pending := 3, high := 0x8F }
  else if 0xF1 ≤ byte ∧ byte ≤ 0xF3 then some { value := byte.toNat % 8, pending := 3 }
  else none

/-- The rest of a character whose first `width` bytes are read. -/
def follow (low high : UInt8) (value width : Nat) : (pending : Nat) → Bytes → Front
  | 0, _ => .character (Char.ofNat value) width
  | _ + 1, [] => .incomplete
  | pending + 1, byte :: rest =>
    if low ≤ byte ∧ byte ≤ high then
      follow 0x80 0xBF (value * 64 + byte.toNat % 64) (width + 1) pending rest
    else .invalid width

def front (byte : UInt8) (rest : Bytes) : Front :=
  if byte < 0x80 then .character (Char.ofNat byte.toNat) 1
  else
    match Lead.of? byte with
    | some lead => follow lead.low lead.high lead.value 1 lead.pending rest
    | none => .invalid 1

/-- Where bytes stop being UTF-8: the index of the first bad sequence and its
length, which is unknown if the input ends inside it. -/
structure DecodeError where
  index : Nat
  length? : Option Nat
deriving DecidableEq, Repr

def DecodeError.message (error : DecodeError) : String :=
  match error.length? with
  | some length => s!"invalid utf-8 sequence of {length} bytes from index {error.index}"
  | none => s!"incomplete utf-8 byte sequence from index {error.index}"

/-- Strict reading of the bytes that begin at `index`. -/
def decodeFrom (index : Nat) (bytes : Bytes) : Except DecodeError Text :=
  match bytes with
  | [] => .ok []
  | byte :: rest =>
    match front byte rest with
    | .character c width =>
      match decodeFrom (index + width) (rest.drop (width - 1)) with
      | .ok text => .ok (c :: text)
      | .error error => .error error
    | .invalid width => .error ⟨index, some width⟩
    | .incomplete => .error ⟨index, none⟩
termination_by bytes.length
decreasing_by simp only [List.length_drop, List.length_cons]; omega

def decode (bytes : Bytes) : Except DecodeError Text := decodeFrom 0 bytes

def replacement : Char := '\uFFFD'

/-- Lenient reading. -/
def decodeLossy (bytes : Bytes) : Text :=
  match bytes with
  | [] => []
  | byte :: rest =>
    match front byte rest with
    | .character c width => c :: decodeLossy (rest.drop (width - 1))
    | .invalid width => replacement :: decodeLossy (rest.drop (width - 1))
    | .incomplete => [replacement]
termination_by bytes.length
decreasing_by all_goals simp only [List.length_drop, List.length_cons]; omega

end Utf8
end DiagramEditor

import DiagramEditor.Proofs.Text.Run
import DiagramEditor.Proofs.Text.Utf8

/-! Bytes and classes of ASCII characters. A character outside ASCII is written in bytes that no
ASCII character has, so it makes no difference to such a class whether a text is read by its
characters or by its bytes: what stands before and behind a part of a text can be asked of
either, and a run of the class is the same number of both. -/
namespace DiagramEditor

variable {range : ByteRange} {place : Nat}

namespace Text

variable {text front back : Text} {p : Char → Bool} {c : Char} {byte : UInt8}

/-- The characters of the class are ASCII. -/
def IsAscii (p : Char → Bool) : Prop := ∀ c, p c → c.toNat < 0x80

theorem isAscii_isAlphanum : IsAscii Char.isAlphanum := by
  intro c member
  obtain ⟨-, below⟩ := bounds_of_isAlphanum member
  omega

theorem isAscii_isDigit : IsAscii Char.isDigit := by
  intro c digit
  exact isAscii_isAlphanum c (by simp [Char.isAlphanum, digit])

/-- The byte at the place, read as the character of its number, is of the class. -/
def byteIs (text : Text) (p : Char → Bool) (place : Nat) : Bool :=
  text.toUtf8[place]?.any fun byte => p (Char.ofNat byte.toNat)

/-- A maximal run of bytes of the class. -/
structure IsRun (text : Text) (p : Char → Bool) (range : ByteRange) : Prop where
  nonempty : range.start < range.stop
  inside : ∀ place, range.Covers place → text.byteIs p place
  before : ∀ place, place + 1 = range.start → text.byteIs p place = false
  behind : text.byteIs p range.stop = false

theorem lt_size_of_byteIs (held : text.byteIs p place) : place < text.size := by
  obtain ⟨byte, read, -⟩ := (Option.any_eq_true _ _).mp held
  obtain ⟨bound, -⟩ := List.getElem?_eq_some_iff.mp read
  rwa [length_toUtf8] at bound

theorem byteIs_append_of_lt (inside : place < front.size) (back : Text) :
    byteIs (front ++ back) p place = front.byteIs p place := by
  rw [byteIs, toUtf8_append, List.getElem?_append_left (by rwa [length_toUtf8]), byteIs]

theorem byteIs_size_add_append (front back : Text) (place : Nat) :
    byteIs (front ++ back) p (front.size + place) = back.byteIs p place := by
  rw [byteIs, toUtf8_append, ← length_toUtf8, List.getElem?_append_right (Nat.le_add_right _ _),
    Nat.add_sub_cancel_left, byteIs]

theorem toNat_ofNat_of_byte (byte : UInt8) : (Char.ofNat byte.toNat).toNat = byte.toNat := by
  have := byte.toNat_lt
  exact Utf8.toNat_of_ofNat (Or.inl (by omega)) rfl

theorem le_of_mem_utf8EncodeChar (above : 0x7F < c.toNat)
    (member : byte ∈ String.utf8EncodeChar c) : 0x80 ≤ byte.toNat := by
  have written {n : Nat} (low : 0x80 ≤ n) (high : n < 256) : 0x80 ≤ (UInt8.ofNat n).toNat := by
    rwa [UInt8.toNat_ofNat_of_lt' high]
  rcases Nat.lt_or_ge 0x7FF c.toNat with beyondTwo | two
  · rcases Nat.lt_or_ge 0xFFFF c.toNat with beyondThree | three
    · rw [Utf8.utf8EncodeChar_four c beyondThree] at member
      simp only [List.mem_cons, List.not_mem_nil, or_false] at member
      rcases member with rfl | rfl | rfl | rfl <;> exact written (by omega) (by omega)
    · rw [Utf8.utf8EncodeChar_three c beyondTwo three] at member
      simp only [List.mem_cons, List.not_mem_nil, or_false] at member
      rcases member with rfl | rfl | rfl <;> exact written (by omega) (by omega)
  · rw [Utf8.utf8EncodeChar_two c above two] at member
    simp only [List.mem_cons, List.not_mem_nil, or_false] at member
    rcases member with rfl | rfl <;> exact written (by omega) (by omega)

section Ascii

variable (ascii : IsAscii p)
include ascii

theorem ofNat_of_mem_utf8EncodeChar (member : byte ∈ String.utf8EncodeChar c) :
    p (Char.ofNat byte.toNat) = p c := by
  rcases Nat.lt_or_ge 0x7F c.toNat with above | below
  · have far := le_of_mem_utf8EncodeChar above member
    have one : p c = false := Bool.eq_false_iff.mpr fun held => by
      have := ascii c held
      omega
    have other : p (Char.ofNat byte.toNat) = false := Bool.eq_false_iff.mpr fun held => by
      have := ascii _ held
      rw [toNat_ofNat_of_byte] at this
      omega
    rw [one, other]
  · rw [Utf8.utf8EncodeChar_one c below, List.mem_singleton] at member
    rw [member, UInt8.toNat_ofNat_of_lt' (show c.toNat < 256 by omega), Char.ofNat_toNat]

theorem byteIs_cons_of_lt (inside : place < c.utf8Size) (back : Text) :
    byteIs (c :: back) p place = p c := by
  have single : byteIs [c] p place = p c := by
    have bound : place < (String.utf8EncodeChar c).length := by rwa [String.length_utf8EncodeChar]
    have bytes : toUtf8 [c] = String.utf8EncodeChar c := by simp [toUtf8]
    rw [byteIs, bytes, List.getElem?_eq_getElem bound, Option.any_some]
    exact ofNat_of_mem_utf8EncodeChar ascii (List.getElem_mem bound)
  have bound : place < size [c] := by simpa using inside
  rw [← single]
  exact byteIs_append_of_lt bound back

theorem byteIs_size_append (front back : Text) :
    byteIs (front ++ back) p front.size = back.head?.any p := by
  have moved := byteIs_size_add_append (p := p) front back 0
  rw [Nat.add_zero] at moved
  rw [moved]
  cases back with
  | nil => rfl
  | cons c more => exact byteIs_cons_of_lt ascii c.utf8Size_pos more

theorem byteIs_append_of_succ (last : place + 1 = front.size) (back : Text) :
    byteIs (front ++ back) p place = front.getLast?.any p := by
  rw [byteIs_append_of_lt (by omega)]
  cases ends : front.getLast? with
  | none =>
    rw [List.getLast?_eq_none_iff.mp ends] at last
    cases last
  | some c =>
    obtain ⟨more, rfl⟩ := List.getLast?_eq_some_iff.mp ends
    have width := c.utf8Size_pos
    rw [size_append, size_cons, size_nil, Nat.add_zero] at last
    have start : place = size more + (c.utf8Size - 1) := by omega
    rw [start, byteIs_size_add_append, byteIs_cons_of_lt ascii (by omega), Option.any_some]

theorem exists_mem_of_byteIs (held : text.byteIs p place) : ∃ c ∈ text, p c := by
  obtain ⟨byte, read, member⟩ := (Option.any_eq_true _ _).mp held
  obtain ⟨c, listed, encoded⟩ := List.mem_flatMap.mp (List.mem_of_getElem? read)
  exact ⟨c, listed, (ofNat_of_mem_utf8EncodeChar ascii encoded).symm.trans member⟩

theorem byteIs_of_forall (inside : ∀ c ∈ text, p c) (bound : place < text.size) :
    text.byteIs p place := by
  induction text generalizing place with
  | nil => cases bound
  | cons c more ih =>
    have first := inside c List.mem_cons_self
    rw [size_cons] at bound
    rcases Nat.lt_or_ge place c.utf8Size with here | later
    · rwa [byteIs_cons_of_lt ascii here]
    · have start : place = size [c] + (place - c.utf8Size) := by
        simp only [size_cons, size_nil]
        omega
      rw [start, ← List.singleton_append, byteIs_size_add_append]
      exact ih (fun d member => inside d (List.mem_cons_of_mem _ member)) (by omega)

/-- Characters of the class that others stand before and behind are a maximal run of bytes. -/
theorem isRun_middle {middle : Text} (present : middle ≠ []) (inside : ∀ c ∈ middle, p c)
    (before : front.getLast?.any p = false) (behind : back.head?.any p = false) :
    IsRun (front ++ (middle ++ back)) p ⟨front.size, front.size + middle.size⟩ where
  nonempty := by
    have := size_pos present
    simp only
    omega
  inside place covered := by
    obtain ⟨above, below⟩ := covered
    simp only at above below
    have start : place = front.size + (place - front.size) := by omega
    rw [start, byteIs_size_add_append, byteIs_append_of_lt (by omega)]
    exact byteIs_of_forall ascii inside (by omega)
  before place last := by rw [byteIs_append_of_succ ascii last, before]
  behind := by
    rw [← List.append_assoc, ← size_append, byteIs_size_append ascii, behind]

end Ascii

/-- A maximal run lies within every other one with which it has a byte in common. -/
theorem IsRun.within_of_covers {other : ByteRange} (one : text.IsRun p range)
    (two : text.IsRun p other) (first : range.Covers place) (second : other.Covers place) :
    other.start ≤ range.start ∧ range.stop ≤ other.stop := by
  obtain ⟨above, below⟩ := first
  obtain ⟨above', below'⟩ := second
  constructor
  · refine Nat.not_lt.mp fun earlier => ?_
    have held := one.inside (other.start - 1) ⟨by omega, by omega⟩
    rw [two.before (other.start - 1) (by omega)] at held
    cases held
  · refine Nat.not_lt.mp fun further => ?_
    have held := one.inside other.stop ⟨by omega, by omega⟩
    rw [two.behind] at held
    cases held

theorem IsRun.eq_of_covers {other : ByteRange} (one : text.IsRun p range)
    (two : text.IsRun p other) (first : range.Covers place) (second : other.Covers place) :
    range = other := by
  obtain ⟨start, stop⟩ := one.within_of_covers two first second
  obtain ⟨start', stop'⟩ := two.within_of_covers one second first
  cases range
  cases other
  exact (ByteRange.mk.injEq ..).mpr ⟨Nat.le_antisymm start' start, Nat.le_antisymm stop stop'⟩

end Text
end DiagramEditor

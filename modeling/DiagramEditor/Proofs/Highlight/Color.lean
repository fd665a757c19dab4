import DiagramEditor.Highlight.Color

/-! Reading colours. A text of the right shape is cut in pairs, and each pair is read as a number
of its own. Such a number may carry a plus sign, so texts with a plus sign where a pair begins
count as colours, although they have fewer than six digits; these are the only ones that are not
taken for what they are. -/
namespace DiagramEditor.Rgb

variable {text : String} {color : Rgb} {value : UInt8} {n : Nat} {a b c d e f : Char}
  {digits : List Char}

def IsHexDigit (c : Char) : Prop :=
  ('0' ≤ c ∧ c ≤ '9') ∨ ('a' ≤ c ∧ c ≤ 'f') ∨ ('A' ≤ c ∧ c ≤ 'F')

instance (c : Char) : Decidable (IsHexDigit c) := inferInstanceAs (Decidable (_ ∨ _))

/-- A hash sign and six characters below 128. -/
def HasShape (text : String) : Prop :=
  ∃ digits, text.toList = '#' :: digits ∧ digits.length = 6 ∧ ∀ c ∈ digits, c.toNat < 128

/-- A hash sign and six hexadecimal digits. -/
def IsHexColor (text : String) : Prop :=
  ∃ digits, text.toList = '#' :: digits ∧ digits.length = 6 ∧ ∀ c ∈ digits, IsHexDigit c

/-- Two characters that are read as a number. -/
def IsPair (first second : Char) : Prop := (first = '+' ∨ IsHexDigit first) ∧ IsHexDigit second

/-- A hash sign and three pairs, at least one of them with a plus sign. -/
def IsSigned (text : String) : Prop :=
  ∃ a b c d e f, text.toList = ['#', a, b, c, d, e, f] ∧ IsPair a b ∧ IsPair c d ∧ IsPair e f ∧
    '+' ∈ [a, c, e]

/-- A text is taken for what it is: it is a colour if it has six digits, and is then written back
with its letters in upper case; otherwise it is refused, for its digits if it has the right shape
and else for its shape. -/
structure ReadsExactly (text : String) : Prop where
  accepts : (∃ color, parse text = .ok color) ↔ IsHexColor text
  writes : ∀ color, parse text = .ok color →
    color.toString.toList = text.toList.map Char.toUpper
  badHex : HasShape text → ¬IsHexColor text → parse text = .error (.badHex text)
  badFormat : ¬HasShape text → parse text = .error (.badFormat text)

/-- How a character of a colour is written back. -/
def written (c : Char) : Char := if c = '+' then '0' else c.toUpper

theorem isSome_hexDigitValue? : (hexDigitValue? c).isSome ↔ IsHexDigit c := by
  have digit : c.isDigit ↔ '0' ≤ c ∧ c ≤ '9' := by
    simp [Char.isDigit, Char.le_def]
  rw [hexDigitValue?, IsHexDigit]
  grind

theorem toNat_lt_of_isHexDigit (digit : IsHexDigit c) : c.toNat < 128 := by
  have small {last : Char} (below : c ≤ last) : c.toNat ≤ last.toNat := below
  rcases digit with ⟨-, below⟩ | ⟨-, below⟩ | ⟨-, below⟩ <;>
    exact Nat.lt_of_le_of_lt (small below) (by decide)

theorem written_of_hexDigitValue? (found : hexDigitValue? c = some n) :
    n < 16 ∧ upperHexDigit n = written c := by
  have ascii : c.toNat < 128 :=
    toNat_lt_of_isHexDigit (isSome_hexDigitValue?.mp (found ▸ rfl))
  have table : ∀ code < 128, ∀ n ∈ hexDigitValue? (Char.ofNat code),
      n < 16 ∧ upperHexDigit n = written (Char.ofNat code) := by decide
  have entry := table c.toNat ascii
  rw [Char.ofNat_toNat] at entry
  exact entry n found

theorem channelDigits_ofNat {high low : Nat} (first : high < 16) (second : low < 16) :
    channelDigits (UInt8.ofNat (16 * high + low)) = [upperHexDigit high, upperHexDigit low] := by
  have value : (UInt8.ofNat (16 * high + low)).toNat = 16 * high + low :=
    UInt8.toNat_ofNat_of_lt (by change _ < 256; omega)
  have upper : (16 * high + low) / 16 = high := by omega
  have lower : (16 * high + low) % 16 = low := by omega
  rw [channelDigits, value, upper, lower]

theorem isSome_channel? : (channel? a b).isSome ↔ IsPair a b := by
  rw [channel?, IsPair, ← isSome_hexDigitValue?, ← isSome_hexDigitValue?]
  by_cases sign : a = '+'
  · simp [sign]
  · cases hexDigitValue? a <;> simp [sign]

theorem channelDigits_of_channel? (found : channel? a b = some value) :
    channelDigits value = [written a, written b] := by
  rw [channel?] at found
  by_cases sign : a = '+'
  · rw [if_pos sign, Option.map_eq_some_iff] at found
    obtain ⟨low, second, rfl⟩ := found
    obtain ⟨small, lower⟩ := written_of_hexDigitValue? second
    have digits := channelDigits_ofNat (by decide : 0 < 16) small
    rw [Nat.mul_zero, Nat.zero_add, lower] at digits
    rw [digits, sign]
    rfl
  · simp only [if_neg sign, Option.bind_eq_some_iff, Option.map_eq_some_iff] at found
    obtain ⟨high, first, low, second, rfl⟩ := found
    obtain ⟨large, upper⟩ := written_of_hexDigitValue? first
    obtain ⟨small, lower⟩ := written_of_hexDigitValue? second
    rw [channelDigits_ofNat large small, upper, lower]

theorem toNat_lt_of_isPair (pair : IsPair a b) : a.toNat < 128 ∧ b.toNat < 128 := by
  obtain ⟨rfl | first, second⟩ := pair
  · exact ⟨by decide, toNat_lt_of_isHexDigit second⟩
  · exact ⟨toNat_lt_of_isHexDigit first, toNat_lt_of_isHexDigit second⟩

theorem digits?_eq_some :
    digits? text = some digits ↔
      text.toList = '#' :: digits ∧ digits.length = 6 ∧ ∀ c ∈ digits, c.toNat < 128 := by
  rw [digits?]
  grind

theorem exists_of_length_eq_six (six : digits.length = 6) :
    ∃ a b c d e f, digits = [a, b, c, d, e, f] := by
  match digits, six with
  | [a, b, c, d, e, f], _ => exact ⟨a, b, c, d, e, f, rfl⟩

theorem parse_of_not_hasShape (other : ¬HasShape text) : parse text = .error (.badFormat text) := by
  have none : digits? text = none := by
    rw [Option.eq_none_iff_forall_ne_some]
    exact fun digits found => other ⟨digits, digits?_eq_some.mp found⟩
  rw [parse, none]

/-- A text of the right shape is a colour, or its digits are to blame. -/
theorem parse_of_hasShape (shape : HasShape text) (none : ∀ color, parse text ≠ .ok color) :
    parse text = .error (.badHex text) := by
  obtain ⟨digits, shape⟩ := shape
  obtain ⟨a, b, c, d, e, f, rfl⟩ := exists_of_length_eq_six shape.2.1
  have found := digits?_eq_some.mpr shape
  rw [parse, found] at none ⊢
  dsimp only at none ⊢
  split
  · rename_i red green blue first second third
    exact absurd (by rw [first, second, third]) (none ⟨red, green, blue⟩)
  · rfl

theorem parse_eq_ok :
    parse text = .ok color ↔ ∃ a b c d e f, text.toList = ['#', a, b, c, d, e, f] ∧
      channel? a b = some color.red ∧ channel? c d = some color.green ∧
      channel? e f = some color.blue := by
  constructor
  · intro read
    rw [parse] at read
    split at read
    · rename_i a b c d e f found
      split at read
      · rename_i red green blue first second third
        obtain rfl := Except.ok.inj read
        exact ⟨a, b, c, d, e, f, (digits?_eq_some.mp found).1, first, second, third⟩
      · cases read
    · cases read
  · rintro ⟨a, b, c, d, e, f, whole, first, second, third⟩
    have ascii₁ := toNat_lt_of_isPair (isSome_channel?.mp (Option.isSome_of_eq_some first))
    have ascii₂ := toNat_lt_of_isPair (isSome_channel?.mp (Option.isSome_of_eq_some second))
    have ascii₃ := toNat_lt_of_isPair (isSome_channel?.mp (Option.isSome_of_eq_some third))
    have found : digits? text = some [a, b, c, d, e, f] :=
      digits?_eq_some.mpr ⟨whole, rfl, by simp [ascii₁, ascii₂, ascii₃]⟩
    simp only [parse, found, first, second, third]

theorem exists_parse_eq_ok :
    (∃ color, parse text = .ok color) ↔ ∃ a b c d e f, text.toList = ['#', a, b, c, d, e, f] ∧
      IsPair a b ∧ IsPair c d ∧ IsPair e f := by
  simp only [parse_eq_ok, ← isSome_channel?, Option.isSome_iff_exists]
  constructor
  · rintro ⟨color, a, b, c, d, e, f, whole, first, second, third⟩
    exact ⟨a, b, c, d, e, f, whole, ⟨_, first⟩, ⟨_, second⟩, ⟨_, third⟩⟩
  · rintro ⟨a, b, c, d, e, f, whole, ⟨red, first⟩, ⟨green, second⟩, ⟨blue, third⟩⟩
    exact ⟨⟨red, green, blue⟩, a, b, c, d, e, f, whole, first, second, third⟩

theorem toString_of_parse (read : parse text = .ok color) :
    color.toString.toList = text.toList.map written := by
  obtain ⟨a, b, c, d, e, f, whole, first, second, third⟩ := parse_eq_ok.mp read
  have hash : written '#' = '#' := by decide
  rw [toString, String.toList_ofList, channelDigits_of_channel? first,
    channelDigits_of_channel? second, channelDigits_of_channel? third, whole]
  simp [hash]

theorem not_isHexDigit_plus : ¬IsHexDigit '+' := by decide

theorem IsSigned.not_isHexColor (signed : IsSigned text) : ¬IsHexColor text := by
  obtain ⟨a, b, c, d, e, f, whole, -, -, -, sign⟩ := signed
  rintro ⟨digits, cut, -, hex⟩
  obtain rfl : [a, b, c, d, e, f] = digits := by
    rw [whole] at cut
    exact (List.cons.inj cut).2
  refine not_isHexDigit_plus (hex '+' ?_)
  simp only [List.mem_cons, List.not_mem_nil, or_false] at sign ⊢
  grind

theorem exists_parse_eq_ok_iff :
    (∃ color, parse text = .ok color) ↔ IsHexColor text ∨ IsSigned text := by
  rw [exists_parse_eq_ok]
  constructor
  · rintro ⟨a, b, c, d, e, f, whole, first, second, third⟩
    by_cases sign : '+' ∈ [a, c, e]
    · exact .inr ⟨a, b, c, d, e, f, whole, first, second, third, sign⟩
    · refine .inl ⟨_, whole, rfl, ?_⟩
      simp only [IsPair, List.mem_cons, List.not_mem_nil, or_false] at *
      grind
  · rintro (⟨digits, whole, six, hex⟩ | ⟨a, b, c, d, e, f, whole, first, second, third, -⟩)
    · obtain ⟨a, b, c, d, e, f, rfl⟩ := exists_of_length_eq_six six
      refine ⟨a, b, c, d, e, f, whole, ?_, ?_, ?_⟩ <;>
        exact ⟨.inr (hex _ (by simp)), hex _ (by simp)⟩
    · exact ⟨a, b, c, d, e, f, whole, first, second, third⟩

theorem map_written_of_isHexColor (hex : IsHexColor text) :
    text.toList.map written = text.toList.map Char.toUpper := by
  obtain ⟨digits, whole, -, hex⟩ := hex
  have plain {c : Char} (other : c ≠ '+') : written c = c.toUpper := by rw [written, if_neg other]
  refine List.map_congr_left fun c member => plain ?_
  rintro rfl
  rw [whole, List.mem_cons] at member
  rcases member with hash | digit
  · exact absurd hash (by decide)
  · exact not_isHexDigit_plus (hex '+' digit)

theorem readsExactly_of_not_isSigned (plain : ¬IsSigned text) : ReadsExactly text := by
  have accepts : (∃ color, parse text = .ok color) ↔ IsHexColor text := by
    rw [exists_parse_eq_ok_iff, or_iff_left plain]
  refine ⟨accepts, fun color read => ?_, fun shape other => ?_, parse_of_not_hasShape⟩
  · rw [toString_of_parse read, map_written_of_isHexColor (accepts.mp ⟨color, read⟩)]
  · exact parse_of_hasShape shape fun color read => other (accepts.mp ⟨color, read⟩)

/-- Every text is taken for what it is, but for those that have a plus sign where a pair begins
and a digit behind it. These are colours, too, with a zero in place of the sign. -/
theorem readsExactly_iff (text : String) :
    (ReadsExactly text ↔ ¬IsSigned text) ∧
      (IsSigned text → ∃ color, parse text = .ok color ∧
        color.toString.toList = text.toList.map written) := by
  have accepted (signed : IsSigned text) := exists_parse_eq_ok_iff.mpr (.inr signed)
  refine ⟨⟨fun exactly signed => ?_, readsExactly_of_not_isSigned⟩, fun signed => ?_⟩
  · exact signed.not_isHexColor (exactly.accepts.mp (accepted signed))
  · obtain ⟨color, read⟩ := accepted signed
    exact ⟨color, read, toString_of_parse read⟩

/-- Three digits and three plus signs make no six digits. -/
theorem not_forall_readsExactly : ¬∀ text, ReadsExactly text := by
  intro exactly
  have read : parse "#+1+2+3" = .ok ⟨1, 2, 3⟩ := rfl
  obtain ⟨digits, whole, -, hex⟩ := (exactly "#+1+2+3").accepts.mp ⟨_, read⟩
  have cut : "#+1+2+3".toList = '#' :: ['+', '1', '+', '2', '+', '3'] := rfl
  obtain rfl := (List.cons.inj (whole.symm.trans cut)).2
  exact not_isHexDigit_plus (hex '+' (by decide))

end DiagramEditor.Rgb

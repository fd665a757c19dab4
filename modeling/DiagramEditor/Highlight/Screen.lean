import DiagramEditor.Highlight.Terminal

/-! What a terminal shows of the text that it is sent. It tracks one foreground colour,
which one escape sequence sets and another one clears; everything else is printed,
an escape character that begins neither of the two included. -/
namespace DiagramEditor.Terminal

/-- A printed character in the colour that was active. -/
structure Cell where
  character : Char
  foreground? : Option Rgb
deriving DecidableEq, Repr

/-- The characters of a token in the colour of its class. -/
def cells (theme : Theme) (token : Syntax.Token) : List Cell :=
  token.text.map (⟨·, theme.color? token.category⟩)

/-- The text behind a word that it begins with. -/
def skipWord? (word rest : Text) : Option Text :=
  if word.isPrefixOf rest then some (rest.drop word.length) else none

/-- A number of eight bits in decimal digits, and the text behind it. -/
def channel? (rest : Text) : Option (UInt8 × Text) :=
  let digits := rest.takeWhile Char.isDigit
  let value := digits.foldl (fun value c => 10 * value + (c.toNat - '0'.toNat)) 0
  if digits.isEmpty || 255 < value then none
  else some (UInt8.ofNat value, rest.dropWhile Char.isDigit)

/-- The colour that is active behind an escape sequence at the start of a text, and the
text behind the sequence. -/
def sequence? (rest : Text) : Option (Option Rgb × Text) :=
  match skipWord? reset rest with
  | some behind => some (none, behind)
  | none => do
    let behind ← skipWord? (escapeChar :: "[38;2;".toList) rest
    let (red, behind) ← channel? behind
    let (green, behind) ← channel? (← skipWord? [';'] behind)
    let (blue, behind) ← channel? (← skipWord? [';'] behind)
    some (some ⟨red, green, blue⟩, ← skipWord? ['m'] behind)

theorem skipWord?_length {word rest behind : Text} (skipped : skipWord? word rest = some behind) :
    behind.length + word.length ≤ rest.length := by
  unfold skipWord? at skipped
  split at skipped
  · rename_i begins
    cases skipped
    have := (List.isPrefixOf_iff_prefix.mp begins).length_le
    rw [List.length_drop]
    omega
  · contradiction

theorem channel?_length {rest behind : Text} {value : UInt8}
    (found : channel? rest = some (value, behind)) : behind.length ≤ rest.length := by
  unfold channel? at found
  simp only at found
  split at found
  · contradiction
  · cases found
    exact (List.dropWhile_suffix _).length_le

/-- An escape sequence takes up room. -/
theorem sequence?_length {rest behind : Text} {foreground? : Option Rgb}
    (found : sequence? rest = some (foreground?, behind)) : behind.length < rest.length := by
  unfold sequence? at found
  split at found
  · rename_i skipped
    cases found
    have := skipWord?_length skipped
    simp only [reset, List.length_cons, List.length_nil] at this
    omega
  · simp only [Option.bind_eq_bind, Option.bind_eq_some_iff, Prod.exists, Option.some.injEq,
      Prod.mk.injEq] at found
    obtain ⟨a, opened, _, b, first, c, second, _, d, third, e, fourth, _, f, fifth, g, closed,
      -, rfl⟩ := found
    have := skipWord?_length opened
    have := channel?_length first
    have := skipWord?_length second
    have := channel?_length third
    have := skipWord?_length fourth
    have := channel?_length fifth
    have := skipWord?_length closed
    simp only [List.length_cons] at *
    omega

/-- What is printed of a text, from a state with the given colour active, and the colour
that is active behind it. -/
def display (foreground? : Option Rgb) (text : Text) : List Cell × Option Rgb :=
  match _found : sequence? text with
  | some (next?, behind) => display next? behind
  | none =>
    match text with
    | [] => ([], foreground?)
    | c :: rest =>
      let (cells, last?) := display foreground? rest
      (⟨c, foreground?⟩ :: cells, last?)
termination_by text.length
decreasing_by
  · exact sequence?_length _found
  · exact Nat.lt_succ_self _

end DiagramEditor.Terminal

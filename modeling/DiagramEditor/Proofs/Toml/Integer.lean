import Mathlib.Data.List.Basic
import Mathlib.Data.List.TakeWhile
import DiagramEditor.Proofs.Text.Lines
import DiagramEditor.Proofs.Text.Run
import DiagramEditor.Toml.Scalar
import DiagramEditor.Toml.Writer

/-! Natural numbers are read back as they were written: a run of digits that has no zero in
front of others is a decimal integer, and its value is the number whose digits these are. -/
namespace DiagramEditor.Toml.Scalar

variable {digits rest : Text} {c : Char} {n : Nat}

theorem isTerminator_of_isDigit (digit : c.isDigit) : isTerminator c = false := by
  have none : [' ', '\t', '\n', '\r', '#', ',', '=', '[', ']', '\x7b', '\x7d'].all
      (!·.isDigit) := by decide
  refine Bool.eq_false_iff.mpr fun terminator => ?_
  have noDigit := List.all_eq_true.mp none c (List.contains_iff_mem.mp terminator)
  simp [digit] at noDigit

theorem isSign_of_isDigit (digit : c.isDigit) : isSign c = false := by
  refine Bool.eq_false_iff.mpr fun sign => ?_
  simp only [isSign, Bool.or_eq_true, decide_eq_true_eq] at sign
  rcases sign with rfl | rfl <;> cases digit

theorem hexDigitValue?_of_isDigit (digit : c.isDigit) :
    hexDigitValue? c = some (c.toNat - '0'.toNat) :=
  if_pos digit

theorem head?_toDigits (positive : 0 < n) : (Nat.toDigits 10 n).head? ≠ some '0' := by
  induction n using Nat.strongRecOn with
  | ind n ih =>
    rw [Nat.toDigits_eq_if (by decide)]
    split
    · rename_i small
      have nonzero : ∀ digit < 10, 0 < digit → [Nat.digitChar digit].head? ≠ some '0' := by decide
      exact nonzero n small positive
    · have front := ih (n / 10) (by omega) (by omega)
      rwa [List.head?_append_of_ne_nil _ Nat.toDigits_ne_nil]

theorem hasLeadingZero_toDigits (n : Nat) : hasLeadingZero (Nat.toDigits 10 n) = false := by
  rcases Nat.eq_zero_or_pos n with rfl | positive
  · rfl
  · have first := head?_toDigits positive
    unfold hasLeadingZero
    split
    · rename_i same
      rw [same] at first
      exact absurd rfl first
    · rfl

theorem naturalOf_toDigits (n : Nat) : naturalOf 10 (Nat.toDigits 10 n) = n := by
  have value : ∀ digits : Text, (∀ c ∈ digits, c.isDigit) →
      naturalOf 10 digits = Nat.ofDigitChars 10 digits 0 := by
    intro digits inside
    refine List.foldl_ext _ _ 0 fun value c member => ?_
    rw [hexDigitValue?_of_isDigit (inside c member), Option.getD_some, Nat.mul_comm]
  rw [value _ (Text.isDigit_of_mem_toDigits n)]
  exact Nat.ofDigitChars_toDigits (by decide) (by decide)

section Digits

variable (present : digits ≠ []) (inside : ∀ c ∈ digits, c.isDigit)
include inside

theorem dropSign_of_isDigit : dropSign digits = digits := by
  cases digits with
  | nil => rfl
  | cons c more =>
    have noSign : (c :: more).head?.any isSign = false :=
      isSign_of_isDigit (inside c List.mem_cons_self)
    rw [dropSign, noSign, if_neg Bool.false_ne_true]

theorem ungroup?_of_isDigit (isDigit : Char → Bool) : ungroup? isDigit digits = some digits := by
  have absent : '_' ∉ digits := fun member => absurd (inside '_' member) (by decide)
  rw [ungroup?, Text.split_of_not_mem absent]

include present

theorem number?_of_isDigit : number? digits = integer? digits := by
  have all : digits.dropWhile Char.isDigit = [] := by
    rw [List.dropWhile_eq_nil_iff]
    exact inside
  simp only [number?, dropSign_of_isDigit inside, all, List.isEmpty_iff, present, if_false]

theorem value?_of_isDigit : value? digits = integer? digits := by
  have other (word : Text) (letter : ∃ c ∈ word, c.isDigit = false) : digits ≠ word := by
    rintro rfl
    obtain ⟨c, member, noDigit⟩ := letter
    exact Bool.false_ne_true (noDigit.symm.trans (inside c member))
  have noWord : dropSign digits ≠ "inf".toList ∧ dropSign digits ≠ "nan".toList := by
    rw [dropSign_of_isDigit inside]
    exact ⟨other _ ⟨'i', by decide, rfl⟩, other _ ⟨'n', by decide, rfl⟩⟩
  unfold value?
  rw [if_neg (other _ ⟨'t', by decide, rfl⟩), if_neg (other _ ⟨'f', by decide, rfl⟩),
    if_neg (by simpa using noWord)]
  split
  · exact absurd rfl (other _ ⟨'x', by simp, rfl⟩)
  · exact absurd rfl (other _ ⟨'o', by simp, rfl⟩)
  · exact absurd rfl (other _ ⟨'b', by simp, rfl⟩)
  · exact number?_of_isDigit present inside

end Digits

theorem integer?_toDigits (fits : n ≤ 0xFFFFFFFFFFFFFFFFFFFFFFFFFFFFFFFF) :
    integer? (Nat.toDigits 10 n) = some (.integer n) := by
  have inside := Text.isDigit_of_mem_toDigits n
  have unsigned : (Nat.toDigits 10 n).head? ≠ some '-' := fun first =>
    absurd (inside '-' (List.mem_of_mem_head? first)) (by decide)
  have digits : ((Nat.toDigits 10 n).isEmpty || !(Nat.toDigits 10 n).all Char.isDigit) = false := by
    simpa [Nat.toDigits_ne_nil] using inside
  have small : -0x80000000000000000000000000000000 ≤ (n : Int) ∧
      (n : Int) ≤ 0xFFFFFFFFFFFFFFFFFFFFFFFFFFFFFFFF := by omega
  rw [integer?, dropSign_of_isDigit inside, hasLeadingZero_toDigits, if_neg Bool.false_ne_true,
    ungroup?_of_isDigit inside, Option.map_some, dropSign_of_isDigit inside,
    decide_eq_false unsigned, decimalInteger, digits, if_neg Bool.false_ne_true, naturalOf_toDigits]
  exact congrArg some (if_pos small)

/-- A number ends with its line. -/
theorem read?_writeInteger (fits : n ≤ 0xFFFFFFFFFFFFFFFFFFFFFFFFFFFFFFFF) (rest : Text) :
    read? (writeInteger n ++ '\n' :: rest) = some (.integer n, '\n' :: rest) := by
  have inside := Text.isDigit_of_mem_toDigits n
  have within : ∀ c ∈ Nat.toDigits 10 n, (!isTerminator c) = true := by
    intro c member
    rw [isTerminator_of_isDigit (inside c member)]
    rfl
  have stop : ('\n' :: rest).head?.any (!isTerminator ·) = false := rfl
  simp only [read?, writeInteger, Text.takeWhile_run within stop, Text.dropWhile_run within stop,
    value?_of_isDigit Nat.toDigits_ne_nil inside, integer?_toDigits fits, Option.map_some]
  rfl

end DiagramEditor.Toml.Scalar

import DiagramEditor.Proofs.Text.Boundary

/-! UTF-8 reads back what it writes and nothing else. The first byte of a character says how
many are to follow, and bounds the next one so that no value has a second form; so the front
of some bytes is a character exactly if they begin with its encoded form. Strict reading then
succeeds on the encoded texts only, each of which gives its text. -/
namespace DiagramEditor

namespace Utf8

variable {byte low high : UInt8} {value width total pending index n : Nat} {bytes rest : Bytes}
  {c : Char} {lead : Lead}

section Lead

theorem Lead.of?_two (atLeast : 0xC2 ≤ byte.toNat) (atMost : byte.toNat ≤ 0xDF) :
    Lead.of? byte = some { value := byte.toNat % 32, pending := 1 } := by
  rw [Lead.of?, if_pos ⟨atLeast, atMost⟩]

theorem Lead.of?_three (atLeast : 0xE0 ≤ byte.toNat) (atMost : byte.toNat ≤ 0xEF) :
    Lead.of? byte = some
      { value := byte.toNat % 16, pending := 2, low := if byte.toNat = 0xE0 then 0xA0 else 0x80,
        high := if byte.toNat = 0xED then 0x9F else 0xBF } := by
  simp only [Lead.of?, UInt8.le_iff_toNat_le, ← UInt8.toNat_inj, UInt8.reduceToNat]
  grind

theorem Lead.of?_four (atLeast : 0xF0 ≤ byte.toNat) (atMost : byte.toNat ≤ 0xF4) :
    Lead.of? byte = some
      { value := byte.toNat % 8, pending := 3, low := if byte.toNat = 0xF0 then 0x90 else 0x80,
        high := if byte.toNat = 0xF4 then 0x8F else 0xBF } := by
  simp only [Lead.of?, UInt8.le_iff_toNat_le, ← UInt8.toNat_inj, UInt8.reduceToNat]
  grind

theorem Lead.of?_eq_none (outside : byte.toNat < 0xC2 ∨ 0xF4 < byte.toNat) :
    Lead.of? byte = none := by
  simp only [Lead.of?, UInt8.le_iff_toNat_le, ← UInt8.toNat_inj, UInt8.reduceToNat]
  grind

end Lead

section Form

variable (c)

theorem utf8EncodeChar_one (atMost : c.toNat ≤ 0x7F) :
    String.utf8EncodeChar c = [UInt8.ofNat c.toNat] := by
  rw [String.utf8EncodeChar]
  exact if_pos atMost

theorem utf8EncodeChar_two (above : 0x7F < c.toNat) (atMost : c.toNat ≤ 0x7FF) :
    String.utf8EncodeChar c =
      [UInt8.ofNat (c.toNat / 64 % 32 + 192), UInt8.ofNat (c.toNat % 64 + 128)] := by
  rw [String.utf8EncodeChar]
  exact (if_neg (Nat.not_le.mpr above)).trans (if_pos atMost)

theorem utf8EncodeChar_three (above : 0x7FF < c.toNat) (atMost : c.toNat ≤ 0xFFFF) :
    String.utf8EncodeChar c =
      [UInt8.ofNat (c.toNat / 4096 % 16 + 224), UInt8.ofNat (c.toNat / 64 % 64 + 128),
        UInt8.ofNat (c.toNat % 64 + 128)] := by
  have further : ¬c.toNat ≤ 0x7F := by omega
  rw [String.utf8EncodeChar]
  exact (if_neg further).trans ((if_neg (Nat.not_le.mpr above)).trans (if_pos atMost))

theorem utf8EncodeChar_four (above : 0xFFFF < c.toNat) :
    String.utf8EncodeChar c =
      [UInt8.ofNat (c.toNat / 262144 % 8 + 240), UInt8.ofNat (c.toNat / 4096 % 64 + 128),
        UInt8.ofNat (c.toNat / 64 % 64 + 128), UInt8.ofNat (c.toNat % 64 + 128)] := by
  have further : ¬c.toNat ≤ 0x7F ∧ ¬c.toNat ≤ 0x7FF := by omega
  rw [String.utf8EncodeChar]
  exact (if_neg further.1).trans ((if_neg further.2).trans (if_neg (Nat.not_le.mpr above)))

end Form

section Follow

theorem front_of_lead (leads : Lead.of? byte = some lead) :
    front byte rest = follow lead.low lead.high lead.value 1 lead.pending rest := by
  have above : ¬byte < 0x80 := by
    intro ascii
    have below : byte.toNat < 0x80 := ascii
    rw [Lead.of?_eq_none (by omega)] at leads
    exact absurd leads nofun
  simp only [front, above, if_false, leads]

theorem follow_tail (atLeast : low.toNat ≤ n % 64 + 128) (atMost : n % 64 + 128 ≤ high.toNat) :
    follow low high value width (pending + 1) (UInt8.ofNat (n % 64 + 128) :: rest) =
      follow 0x80 0xBF (value * 64 + n % 64) (width + 1) pending rest := by
  have written : (UInt8.ofNat (n % 64 + 128)).toNat = n % 64 + 128 :=
    UInt8.toNat_ofNat_of_lt' (show _ < 256 by omega)
  have inside : low ≤ UInt8.ofNat (n % 64 + 128) ∧ UInt8.ofNat (n % 64 + 128) ≤ high := by
    rw [UInt8.le_iff_toNat_le, UInt8.le_iff_toNat_le, written]
    exact ⟨atLeast, atMost⟩
  have share : (n % 64 + 128) % 64 = n % 64 := by omega
  rw [follow, if_pos inside, written, share]

theorem follow_character_succ
    (reads : follow low high value width (pending + 1) bytes = .character c total) :
    ∃ byte rest, bytes = byte :: rest ∧ low.toNat ≤ byte.toNat ∧ byte.toNat ≤ high.toNat ∧
      follow 0x80 0xBF (value * 64 + byte.toNat % 64) (width + 1) pending rest =
        .character c total := by
  cases bytes with
  | nil => exact absurd reads nofun
  | cons byte rest =>
    by_cases inside : low ≤ byte ∧ byte ≤ high
    · rw [follow, if_pos inside] at reads
      exact ⟨byte, rest, rfl, inside.1, inside.2, reads⟩
    · rw [follow, if_neg inside] at reads
      exact absurd reads nofun

end Follow

section Encoded

theorem front_two (above : 0x7F < c.toNat) (atMost : c.toNat ≤ 0x7FF) :
    front (UInt8.ofNat (c.toNat / 64 % 32 + 192)) (UInt8.ofNat (c.toNat % 64 + 128) :: rest) =
      .character c 2 := by
  have written : (UInt8.ofNat (c.toNat / 64 % 32 + 192)).toNat = c.toNat / 64 % 32 + 192 :=
    UInt8.toNat_ofNat_of_lt' (show _ < 256 by omega)
  have value : (c.toNat / 64 % 32 + 192) % 32 * 64 + c.toNat % 64 = c.toNat := by omega
  rw [front_of_lead (Lead.of?_two (by omega) (by omega)),
    follow_tail (show 128 ≤ _ by omega) (show _ ≤ 191 by omega), written, value, follow,
    Char.ofNat_toNat]

theorem front_three (above : 0x7FF < c.toNat) (atMost : c.toNat ≤ 0xFFFF) :
    front (UInt8.ofNat (c.toNat / 4096 % 16 + 224))
      (UInt8.ofNat (c.toNat / 64 % 64 + 128) :: UInt8.ofNat (c.toNat % 64 + 128) :: rest) =
      .character c 3 := by
  have valid : c.toNat < 0xD800 ∨ 0xDFFF < c.toNat ∧ c.toNat < 0x110000 := c.valid
  have written : (UInt8.ofNat (c.toNat / 4096 % 16 + 224)).toNat = c.toNat / 4096 % 16 + 224 :=
    UInt8.toNat_ofNat_of_lt' (show _ < 256 by omega)
  have value : ((c.toNat / 4096 % 16 + 224) % 16 * 64 + c.toNat / 64 % 64) * 64 + c.toNat % 64 =
      c.toNat := by omega
  have notOverlong : (if c.toNat / 4096 % 16 + 224 = 0xE0 then (0xA0 : UInt8) else 0x80).toNat ≤
      c.toNat / 64 % 64 + 128 := by
    split <;> simp only [UInt8.reduceToNat] <;> omega
  have noSurrogate : c.toNat / 64 % 64 + 128 ≤
      (if c.toNat / 4096 % 16 + 224 = 0xED then (0x9F : UInt8) else 0xBF).toNat := by
    split <;> simp only [UInt8.reduceToNat] <;> omega
  rw [front_of_lead (Lead.of?_three (by omega) (by omega)), written,
    follow_tail notOverlong noSurrogate,
    follow_tail (show 128 ≤ _ by omega) (show _ ≤ 191 by omega), value, follow, Char.ofNat_toNat]

theorem front_four (above : 0xFFFF < c.toNat) :
    front (UInt8.ofNat (c.toNat / 262144 % 8 + 240))
      (UInt8.ofNat (c.toNat / 4096 % 64 + 128) :: UInt8.ofNat (c.toNat / 64 % 64 + 128) ::
        UInt8.ofNat (c.toNat % 64 + 128) :: rest) = .character c 4 := by
  have valid : c.toNat < 0xD800 ∨ 0xDFFF < c.toNat ∧ c.toNat < 0x110000 := c.valid
  have written : (UInt8.ofNat (c.toNat / 262144 % 8 + 240)).toNat = c.toNat / 262144 % 8 + 240 :=
    UInt8.toNat_ofNat_of_lt' (show _ < 256 by omega)
  have value : (((c.toNat / 262144 % 8 + 240) % 8 * 64 + c.toNat / 4096 % 64) * 64 +
      c.toNat / 64 % 64) * 64 + c.toNat % 64 = c.toNat := by omega
  have notOverlong : (if c.toNat / 262144 % 8 + 240 = 0xF0 then (0x90 : UInt8) else 0x80).toNat ≤
      c.toNat / 4096 % 64 + 128 := by
    split <;> simp only [UInt8.reduceToNat] <;> omega
  have notAbove : c.toNat / 4096 % 64 + 128 ≤
      (if c.toNat / 262144 % 8 + 240 = 0xF4 then (0x8F : UInt8) else 0xBF).toNat := by
    split <;> simp only [UInt8.reduceToNat] <;> omega
  rw [front_of_lead (Lead.of?_four (by omega) (by omega)), written,
    follow_tail notOverlong notAbove, follow_tail (show 128 ≤ _ by omega) (show _ ≤ 191 by omega),
    follow_tail (show 128 ≤ _ by omega) (show _ ≤ 191 by omega), value, follow, Char.ofNat_toNat]

/-- A character is found at the front of its encoded form, whatever comes behind. -/
theorem front_encoded (encoded : String.utf8EncodeChar c = byte :: bytes) :
    front byte (bytes ++ rest) = .character c (bytes.length + 1) := by
  rcases Nat.lt_or_ge 0x7F c.toNat with beyondOne | one
  · rcases Nat.lt_or_ge 0x7FF c.toNat with beyondTwo | two
    · rcases Nat.lt_or_ge 0xFFFF c.toNat with beyondThree | three
      · obtain ⟨rfl, rfl⟩ := List.cons.inj (encoded.symm.trans (utf8EncodeChar_four c beyondThree))
        exact front_four beyondThree
      · obtain ⟨rfl, rfl⟩ :=
          List.cons.inj (encoded.symm.trans (utf8EncodeChar_three c beyondTwo three))
        exact front_three beyondTwo three
    · obtain ⟨rfl, rfl⟩ := List.cons.inj (encoded.symm.trans (utf8EncodeChar_two c beyondOne two))
      exact front_two beyondOne two
  · obtain ⟨rfl, rfl⟩ := List.cons.inj (encoded.symm.trans (utf8EncodeChar_one c one))
    have written : (UInt8.ofNat c.toNat).toNat = c.toNat :=
      UInt8.toNat_ofNat_of_lt' (show c.toNat < 256 by omega)
    have ascii : UInt8.ofNat c.toNat < 0x80 := by
      rw [UInt8.lt_iff_toNat_lt, written]
      exact Nat.lt_succ_of_le one
    rw [front, if_pos ascii, written, Char.ofNat_toNat]
    rfl

theorem eq_ofNat (same : byte.toNat = n) : byte = UInt8.ofNat n := by
  rw [← same, UInt8.ofNat_toNat]

theorem toNat_of_ofNat (valid : n < 0xD800 ∨ 0xDFFF < n ∧ n < 0x110000) (same : Char.ofNat n = c) :
    c.toNat = n := by
  rw [← same, Char.ofNat, dif_pos valid]
  rfl

theorem encoded_two (atLeast : 0xC2 ≤ byte.toNat) (atMost : byte.toNat ≤ 0xDF)
    (reads : front byte rest = .character c total) :
    byte :: rest = String.utf8EncodeChar c ++ rest.drop (total - 1) := by
  rw [front_of_lead (Lead.of?_two atLeast atMost)] at reads
  obtain ⟨second, behind, rfl, low, high, reads⟩ := follow_character_succ reads
  simp only [UInt8.reduceToNat] at low high
  obtain ⟨same, rfl⟩ := Front.character.inj reads
  have value : c.toNat = byte.toNat % 32 * 64 + second.toNat % 64 :=
    toNat_of_ofNat (Or.inl (by omega)) same
  have first_eq : byte = UInt8.ofNat (c.toNat / 64 % 32 + 192) := eq_ofNat (by omega)
  have second_eq : second = UInt8.ofNat (c.toNat % 64 + 128) := eq_ofNat (by omega)
  rw [utf8EncodeChar_two c (by omega) (by omega), ← first_eq, ← second_eq]
  rfl

theorem encoded_three (atLeast : 0xE0 ≤ byte.toNat) (atMost : byte.toNat ≤ 0xEF)
    (reads : front byte rest = .character c total) :
    byte :: rest = String.utf8EncodeChar c ++ rest.drop (total - 1) := by
  rw [front_of_lead (Lead.of?_three atLeast atMost)] at reads
  obtain ⟨second, behind, rfl, low, high, reads⟩ := follow_character_succ reads
  obtain ⟨third, behind, rfl, low', high', reads⟩ := follow_character_succ reads
  simp only [apply_ite UInt8.toNat, UInt8.reduceToNat] at low high low' high'
  obtain ⟨same, rfl⟩ := Front.character.inj reads
  have notOverlong : byte.toNat = 0xE0 → 160 ≤ second.toNat := fun same => by
    rwa [if_pos same] at low
  have noSurrogate : byte.toNat = 0xED → second.toNat ≤ 159 := fun same => by
    rwa [if_pos same] at high
  have low : 128 ≤ second.toNat := by split at low <;> omega
  have high : second.toNat ≤ 191 := by split at high <;> omega
  have value : c.toNat = (byte.toNat % 16 * 64 + second.toNat % 64) * 64 + third.toNat % 64 :=
    toNat_of_ofNat (by omega) same
  have first_eq : byte = UInt8.ofNat (c.toNat / 4096 % 16 + 224) := eq_ofNat (by omega)
  have second_eq : second = UInt8.ofNat (c.toNat / 64 % 64 + 128) := eq_ofNat (by omega)
  have third_eq : third = UInt8.ofNat (c.toNat % 64 + 128) := eq_ofNat (by omega)
  rw [utf8EncodeChar_three c (by omega) (by omega), ← first_eq, ← second_eq, ← third_eq]
  rfl

theorem encoded_four (atLeast : 0xF0 ≤ byte.toNat) (atMost : byte.toNat ≤ 0xF4)
    (reads : front byte rest = .character c total) :
    byte :: rest = String.utf8EncodeChar c ++ rest.drop (total - 1) := by
  rw [front_of_lead (Lead.of?_four atLeast atMost)] at reads
  obtain ⟨second, behind, rfl, low, high, reads⟩ := follow_character_succ reads
  obtain ⟨third, behind, rfl, low', high', reads⟩ := follow_character_succ reads
  obtain ⟨fourth, behind, rfl, low'', high'', reads⟩ := follow_character_succ reads
  simp only [apply_ite UInt8.toNat, UInt8.reduceToNat] at low high low' high' low'' high''
  obtain ⟨same, rfl⟩ := Front.character.inj reads
  have notOverlong : byte.toNat = 0xF0 → 144 ≤ second.toNat := fun same => by
    rwa [if_pos same] at low
  have notAbove : byte.toNat = 0xF4 → second.toNat ≤ 143 := fun same => by
    rwa [if_pos same] at high
  have low : 128 ≤ second.toNat := by split at low <;> omega
  have high : second.toNat ≤ 191 := by split at high <;> omega
  have value : c.toNat = ((byte.toNat % 8 * 64 + second.toNat % 64) * 64 + third.toNat % 64) * 64 +
      fourth.toNat % 64 := toNat_of_ofNat (by omega) same
  have first_eq : byte = UInt8.ofNat (c.toNat / 262144 % 8 + 240) := eq_ofNat (by omega)
  have second_eq : second = UInt8.ofNat (c.toNat / 4096 % 64 + 128) := eq_ofNat (by omega)
  have third_eq : third = UInt8.ofNat (c.toNat / 64 % 64 + 128) := eq_ofNat (by omega)
  have fourth_eq : fourth = UInt8.ofNat (c.toNat % 64 + 128) := eq_ofNat (by omega)
  rw [utf8EncodeChar_four c (by omega), ← first_eq, ← second_eq, ← third_eq, ← fourth_eq]
  rfl

end Encoded

theorem encoded_front (reads : front byte rest = .character c total) :
    byte :: rest = String.utf8EncodeChar c ++ rest.drop (total - 1) := by
  by_cases ascii : byte < 0x80
  · rw [front, if_pos ascii] at reads
    obtain ⟨same, rfl⟩ := Front.character.inj reads
    have below : byte.toNat < 0x80 := ascii
    have value : c.toNat = byte.toNat := toNat_of_ofNat (Or.inl (by omega)) same
    rw [utf8EncodeChar_one c (by omega), value, UInt8.ofNat_toNat]
    rfl
  · have above : 0x80 ≤ byte.toNat := UInt8.not_lt.mp ascii
    by_cases outside : byte.toNat < 0xC2 ∨ 0xF4 < byte.toNat
    · simp only [front, ascii, if_false, Lead.of?_eq_none outside, reduceCtorEq] at reads
    · rcases Nat.lt_or_ge 0xDF byte.toNat with aboveTwo | two
      · rcases Nat.lt_or_ge 0xEF byte.toNat with aboveThree | three
        · exact encoded_four aboveThree (by omega) reads
        · exact encoded_three aboveTwo three reads
      · exact encoded_two (by omega) two reads

/-- A slash written in three bytes, and a surrogate, are no characters. -/
example : front 0xE0 [0x80, 0xAF] = .invalid 1 ∧ front 0xED [0xA0, 0x80] = .invalid 1 := by
  decide

/-- Strict reading gives back a text from its encoded form. -/
theorem decodeFrom_toUtf8 (index : Nat) (text : Text) :
    decodeFrom index text.toUtf8 = .ok text := by
  induction text generalizing index with
  | nil => rw [Text.toUtf8, List.flatMap_nil, decodeFrom]
  | cons c more ih =>
    cases encoded : String.utf8EncodeChar c with
    | nil => exact absurd encoded String.utf8EncodeChar_ne_nil
    | cons byte tail =>
      have split : Text.toUtf8 (c :: more) = byte :: (tail ++ Text.toUtf8 more) := by
        rw [Text.toUtf8, List.flatMap_cons, encoded]
        rfl
      rw [split, decodeFrom, front_encoded encoded]
      simp only [Nat.add_sub_cancel, List.drop_left, ih]

/-- Strict reading takes nothing but encoded texts. -/
theorem eq_toUtf8_of_decodeFrom {text : Text} (reads : decodeFrom index bytes = .ok text) :
    bytes = text.toUtf8 := by
  fun_induction decodeFrom index bytes generalizing text with
  | case1 =>
    cases reads
    rfl
  | case2 index byte rest c width found text' inner ih =>
    cases reads
    rw [encoded_front found, ih inner]
    rfl
  | case3 => cases reads
  | case4 => cases reads
  | case5 => cases reads

theorem decode_eq_ok_iff {text : Text} : decode bytes = .ok text ↔ bytes = text.toUtf8 where
  mp := eq_toUtf8_of_decodeFrom
  mpr := fun encoded => encoded ▸ decodeFrom_toUtf8 0 text

theorem toUtf8_injective : Function.Injective Text.toUtf8 := by
  intro first second same
  exact Except.ok.inj ((decode_eq_ok_iff.mpr rfl).symm.trans (decode_eq_ok_iff.mpr same))

theorem exists_decode_eq_error (unencoded : ∀ text : Text, bytes ≠ text.toUtf8) :
    ∃ error, decode bytes = .error error := by
  cases reads : decode bytes with
  | ok text => exact absurd (decode_eq_ok_iff.mp reads) (unencoded text)
  | error error => exact ⟨error, rfl⟩

end Utf8
end DiagramEditor

import DiagramEditor.Proofs.Document.Bytes
import DiagramEditor.Proofs.Text.Byte
import DiagramEditor.Syntax.Bytewise

/-! Reading a text by its bytes. A class of ASCII characters, and what is left of all characters
without such a class, treats all bytes of a character alike, so the runs of the class and what
is behind them are found among the bytes where they are in the text. Cuts between parts of a text
succeed, and an offset that is no place to cut lies past the end or inside a character. -/
namespace DiagramEditor.Text

variable {text front back rest word : Text} {p : Char → Bool} {c d : Char} {offset : Nat}

section Bytes

theorem length_bytewise (text : Text) : text.bytewise.length = text.size := by
  rw [bytewise, List.length_map, length_toUtf8]

theorem bytewise_append (front back : Text) :
    bytewise (front ++ back) = front.bytewise ++ back.bytewise := by
  rw [bytewise, toUtf8_append, List.map_append, bytewise, bytewise]

theorem bytewise_cons (c : Char) (more : Text) :
    bytewise (c :: more) = bytewise [c] ++ more.bytewise :=
  bytewise_append [c] more

theorem bytewise_singleton (ascii : c.toNat < 0x80) : bytewise [c] = [c] := by
  have bytes : toUtf8 [c] = String.utf8EncodeChar c := by simp [toUtf8]
  rw [bytewise, bytes, Utf8.utf8EncodeChar_one c (Nat.le_of_lt_succ ascii), List.map_singleton,
    UInt8.toNat_ofNat_of_lt' (show c.toNat < 256 by omega), Char.ofNat_toNat]

theorem bytewise_of_ascii (ascii : ∀ c ∈ text, c.toNat < 0x80) : text.bytewise = text := by
  induction text with
  | nil => rfl
  | cons c more ih =>
    obtain ⟨first, others⟩ := List.forall_mem_cons.mp ascii
    rw [bytewise_cons, bytewise_singleton first, ih others, List.singleton_append]

theorem size_of_ascii (ascii : ∀ c ∈ text, c.toNat < 0x80) : text.size = text.length := by
  rw [← length_bytewise, bytewise_of_ascii ascii]

/-- The class holds of all bytes of a character or of none, as it does of the character. -/
def Uniform (p : Char → Bool) : Prop := ∀ c, ∀ byte ∈ bytewise [c], p byte = p c

theorem IsAscii.uniform (ascii : IsAscii p) : Uniform p := by
  intro c byte member
  obtain ⟨byte, encoded, rfl⟩ := List.mem_map.mp member
  have bytes : toUtf8 [c] = String.utf8EncodeChar c := by simp [toUtf8]
  rw [bytes] at encoded
  exact ofNat_of_mem_utf8EncodeChar ascii encoded

theorem uniform_eq (ascii : d.toNat < 0x80) : Uniform (· = d) := by
  have single : IsAscii (· = d) := by
    intro c same
    rwa [of_decide_eq_true same]
  exact single.uniform

theorem uniform_ne (ascii : d.toNat < 0x80) : Uniform (· ≠ d) := by
  intro c byte member
  have same : decide (byte = d) = decide (c = d) := uniform_eq ascii c byte member
  simp only [ne_eq, decide_not, same]

theorem exists_bytewise_eq_cons (c : Char) (more : Text) :
    ∃ byte others, bytewise (c :: more) = byte :: others ∧ ∀ p, Uniform p → p byte = p c := by
  cases bytes : bytewise [c] with
  | nil =>
    have width := length_bytewise [c]
    have := c.utf8Size_pos
    rw [bytes, List.length_nil, size_cons, size_nil] at width
    omega
  | cons byte others =>
    refine ⟨byte, others ++ more.bytewise, ?_, fun p uniform => ?_⟩
    · rw [bytewise_cons, bytes, List.cons_append]
    · exact uniform c byte (bytes ▸ List.mem_cons_self)

theorem mem_bytewise_iff (ascii : d.toNat < 0x80) : d ∈ text.bytewise ↔ d ∈ text := by
  induction text with
  | nil => rfl
  | cons c more ih =>
    have single : d ∈ bytewise [c] ↔ d = c := by
      constructor
      · intro member
        have same : decide (d = d) = decide (c = d) := uniform_eq ascii c d member
        rw [decide_eq_true rfl] at same
        exact (of_decide_eq_true same.symm).symm
      · rintro rfl
        rw [bytewise_singleton ascii]
        exact List.mem_singleton_self d
    rw [bytewise_cons, List.mem_append, single, ih, List.mem_cons]

theorem head?_bytewise_eq_some_iff (ascii : d.toNat < 0x80) :
    text.bytewise.head? = some d ↔ text.head? = some d := by
  cases text with
  | nil => rfl
  | cons c more =>
    obtain ⟨byte, others, bytes, same⟩ := exists_bytewise_eq_cons c more
    have still : decide (byte = d) = decide (c = d) := same _ (uniform_eq ascii)
    rw [bytes, List.head?_cons, List.head?_cons, Option.some.injEq, Option.some.injEq]
    exact decide_eq_decide.mp still

theorem getElem?_bytewise_append (front back : Text) :
    (bytewise (front ++ back))[front.size]? = back.bytewise.head? := by
  rw [bytewise_append, ← length_bytewise, List.getElem?_append_right (Nat.le_refl _),
    Nat.sub_self, List.head?_eq_getElem?]

section Runs

variable (uniform : Uniform p)
include uniform

theorem head?_any_bytewise (text : Text) : text.bytewise.head?.any p = text.head?.any p := by
  cases text with
  | nil => rfl
  | cons c more =>
    obtain ⟨byte, others, bytes, same⟩ := exists_bytewise_eq_cons c more
    rw [bytes, List.head?_cons, List.head?_cons, Option.any_some, Option.any_some, same p uniform]

theorem takeWhile_bytewise (text : Text) :
    text.bytewise.takeWhile p = bytewise (text.takeWhile p) := by
  induction text with
  | nil => rfl
  | cons c more ih =>
    by_cases held : p c
    · have all : ∀ byte ∈ bytewise [c], p byte := fun byte member => by
        rw [uniform c byte member, held]
      rw [bytewise_cons, List.takeWhile_append_of_pos all, List.takeWhile_cons_of_pos held,
        bytewise_cons c (more.takeWhile p), ih]
    · obtain ⟨byte, others, bytes, same⟩ := exists_bytewise_eq_cons c more
      have outside : ¬p byte := by rwa [same p uniform]
      rw [bytes, List.takeWhile_cons_of_neg outside, List.takeWhile_cons_of_neg held]
      rfl

theorem dropWhile_bytewise (text : Text) :
    text.bytewise.dropWhile p = bytewise (text.dropWhile p) := by
  have whole : text.bytewise =
      bytewise (text.takeWhile p) ++ bytewise (text.dropWhile p) := by
    rw [← bytewise_append, List.takeWhile_append_dropWhile]
  have parted : text.bytewise =
      text.bytewise.takeWhile p ++ text.bytewise.dropWhile p :=
    List.takeWhile_append_dropWhile.symm
  rw [takeWhile_bytewise uniform] at parted
  exact List.append_cancel_left (parted.symm.trans whole)

end Runs

theorem takeWhile_bytewise_of_isAscii (ascii : IsAscii p) (text : Text) :
    text.bytewise.takeWhile p = text.takeWhile p := by
  rw [takeWhile_bytewise ascii.uniform]
  exact bytewise_of_ascii fun c member =>
    ascii c (List.all_eq_true.mp List.all_takeWhile c member)

/-- A word of ASCII characters begins the bytes of a text if it begins the text. -/
theorem isPrefixOf_bytewise (ascii : ∀ c ∈ word, c.toNat < 0x80) (text : Text) :
    word.isPrefixOf text.bytewise = word.isPrefixOf text := by
  induction word generalizing text with
  | nil => rfl
  | cons c more ih =>
    obtain ⟨first, others⟩ := List.forall_mem_cons.mp ascii
    cases text with
    | nil => rfl
    | cons d rest =>
      by_cases same : c = d
      · subst same
        rw [bytewise_cons, bytewise_singleton first, List.singleton_append]
        simp only [List.isPrefixOf, ih others]
      · obtain ⟨byte, others, bytes, equal⟩ := exists_bytewise_eq_cons d rest
        have still := equal _ (uniform_eq first)
        have differ : c ≠ byte := by
          rintro rfl
          exact same (of_decide_eq_true (still.symm.trans (decide_eq_true rfl))).symm
        rw [bytes]
        simp only [List.isPrefixOf, beq_false_of_ne same, beq_false_of_ne differ, Bool.false_and]

end Bytes

section Cuts

/-- What does not fit into the first bytes of a text is the character behind them. -/
theorem lt_of_dropBytes (left : text.dropBytes offset = c :: back) :
    offset < (text.takeBytes offset).size + c.utf8Size := by
  have whole := takeBytes_append_dropBytes offset text
  rw [left] at whole
  refine Nat.not_le.mp fun fits => ?_
  have room : Text.size (text.takeBytes offset ++ [c]) ≤ offset := by
    rw [size_append, size_cons, size_nil]
    omega
  have longer := size_le_size_takeBytes back room
  have := c.utf8Size_pos
  rw [List.append_assoc, List.singleton_append, whole, size_append, size_cons, size_nil] at longer
  omega

theorem isBoundary_iff :
    text.IsBoundary offset ↔ offset ≤ text.size ∧ ¬text.Splits offset := by
  have whole := takeBytes_append_dropBytes offset text
  have below := size_takeBytes_le offset text
  constructor
  · intro boundary
    have start : Text.size (text.takeBytes offset) = offset := boundary
    have size := congrArg Text.size whole
    rw [size_append] at size
    refine ⟨by omega, ?_⟩
    rintro ⟨front, c, back, rfl, above, inside⟩
    -- The character fits into what is in front of the offset, which therefore is no longer.
    have begins : front <+: (front ++ c :: back).takeBytes offset :=
      prefix_of_size_le (List.prefix_append _ _) ⟨_, whole⟩ (by omega)
    obtain ⟨more, longer⟩ := begins
    cases more with
    | nil =>
      rw [List.append_nil] at longer
      rw [← longer] at start
      omega
    | cons d others =>
      rw [← longer, List.append_assoc, List.append_cancel_left_eq, List.cons_append,
        List.cons.injEq] at whole
      rw [← longer, size_append, size_cons, whole.1] at start
      omega
  · rintro ⟨within, unsplit⟩
    refine Nat.le_antisymm below (Nat.not_lt.mp fun short => unsplit ?_)
    cases left : text.dropBytes offset with
    | nil =>
      rw [left, List.append_nil] at whole
      rw [floorBoundary, whole] at short
      omega
    | cons c back =>
      rw [left] at whole
      exact ⟨_, c, back, whole.symm, short, lt_of_dropBytes left⟩

theorem cut_append (front middle back : Text) :
    cut (front ++ (middle ++ back)) ⟨front.size, front.size + middle.size⟩ = .ok middle := by
  rw [cut, slice_append]
  exact if_pos ⟨Nat.le_add_right _ _, isBoundary_size_append _ _, isBoundary_add_size _ _ _⟩

theorem cut_to_end (front back : Text) :
    cut (front ++ back) ⟨front.size, size (front ++ back)⟩ = .ok back := by
  have whole := cut_append front back []
  rwa [List.append_nil, ← size_append] at whole

theorem cut_of_not_isBoundary {stop : Nat} (inside : ¬text.IsBoundary offset) :
    text.cut ⟨offset, stop⟩ = .error ⟨offset, stop⟩ :=
  if_neg fun held => inside held.2.1

theorem bytesFrom_append (front back : Text) :
    bytesFrom (front ++ back) front.size = .ok back.bytewise := by
  have within : front.size ≤ size (front ++ back) := by
    rw [size_append]
    omega
  rw [bytesFrom, if_pos within, bytewise_append, List.drop_left' (length_bytewise front)]

end Cuts
end DiagramEditor.Text

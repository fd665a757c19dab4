import DiagramEditor.Proofs.Syntax.Words

/-! Precedence and length. The longest match over all rules is the match of the first rule
that holds: of two rules that hold at the start of one text the earlier one reaches
further, since only qualified names and numbers begin with a common character, and a name
goes on where its digits end. A matcher that gives up on a number which it has read past
is set right by the second try, so what it reports makes no difference to the rule found. -/
namespace DiagramEditor.Syntax

variable {rest word : Text} {length : Nat}

namespace Rule

/-- The characters that words of the rule begin with. -/
def opens : Rule → Char → Bool
  | operator, c => ['-', '=', '|'].contains c
  | bracket, c => brackets.contains c
  | quoted quote, c => [quote.delimiter].contains c
  | qualifiedName, c => isWordChar c
  | number, c => c.isDigit

theorem opens_of_accepts {rule : Rule} (accepted : rule.Accepts word) :
    word.head?.any rule.opens := by
  cases accepted with
  | operator listed =>
    simp only [connectors, List.mem_cons, List.not_mem_nil, or_false] at listed
    rcases listed with rfl | rfl | rfl | rfl | rfl <;> rfl
  | bracket listed => exact List.contains_iff_mem.mpr listed
  | quoted outside => simp [opens]
  | @qualifiedName scope name present inside =>
    cases scope with
    | nil => exact absurd rfl present
    | cons c more => exact inside c List.mem_cons_self
  | number present digits =>
    cases word with
    | nil => exact absurd rfl present
    | cons c more => exact digits c List.mem_cons_self

theorem opens_of_length? {rule : Rule} {c : Char} {more : Text}
    (found : rule.length? (c :: more) = some length) : rule.opens c := by
  obtain ⟨positive, -⟩ := length?_bounds found
  have opened := opens_of_accepts (accepts_take rule found)
  rwa [List.head?_take, if_neg (Nat.ne_of_gt positive)] at opened

theorem mem_all (rule : Rule) : rule ∈ all := by
  cases rule with
  | quoted quote => cases quote <;> decide
  | _ => decide

/-- The characters that begin the words of one rule each. -/
def marks : Text := ['-', '=', '|'] ++ brackets ++ ['"', '\'', '`']

theorem mem_marks_of_opens {rule : Rule} {c : Char} (opened : rule.opens c) :
    rule = .qualifiedName ∨ rule = .number ∨ c ∈ marks := by
  cases rule with
  | qualifiedName => exact .inl rfl
  | number => exact .inr (.inl rfl)
  | operator =>
    have listed : ['-', '=', '|'] ⊆ marks := by decide
    exact .inr (.inr (listed (List.contains_iff_mem.mp opened)))
  | bracket =>
    have listed : brackets ⊆ marks := by decide
    exact .inr (.inr (listed (List.contains_iff_mem.mp opened)))
  | quoted quote =>
    have listed : [quote.delimiter] ⊆ marks := by cases quote <;> decide
    exact .inr (.inr (listed (List.contains_iff_mem.mp opened)))

theorem eq_of_mem_marks {one other : Rule} {c : Char} (mark : c ∈ marks) (first : one.opens c)
    (second : other.opens c) : one = other := by
  have single : marks.all fun c => (all.filter (·.opens c)).length = 1 := by decide
  have alone := List.all_eq_true.mp single c mark
  rw [decide_eq_true_eq, List.length_eq_one_iff] at alone
  obtain ⟨rule, alone⟩ := alone
  have only {rule' : Rule} (opened : rule'.opens c) : rule' = rule := by
    have listed : rule' ∈ all.filter (·.opens c) := List.mem_filter.mpr ⟨mem_all rule', opened⟩
    rw [alone] at listed
    exact List.mem_singleton.mp listed
  exact (only first).trans (only second).symm

/-- Only names and numbers begin with a common character. -/
theorem eq_of_opens {earlier later : Rule} {c : Char} (first : earlier.opens c)
    (second : later.opens c) :
    earlier = later ∨ (earlier = .qualifiedName ∧ later = .number) ∨
      (earlier = .number ∧ later = .qualifiedName) := by
  rcases mem_marks_of_opens first with rfl | rfl | mark
  · rcases mem_marks_of_opens second with rfl | rfl | mark
    · exact .inl rfl
    · exact .inr (.inl ⟨rfl, rfl⟩)
    · exact .inl (eq_of_mem_marks mark first second)
  · rcases mem_marks_of_opens second with rfl | rfl | mark
    · exact .inr (.inr ⟨rfl, rfl⟩)
    · exact .inl rfl
    · exact .inl (eq_of_mem_marks mark first second)
  · exact .inl (eq_of_mem_marks mark first second)

theorem digitLength?_lt_qualifiedLength? {name digits : Nat}
    (named : qualifiedLength? rest = some name) (counted : digitLength? rest = some digits) :
    digits < name := by
  obtain ⟨scope, more, rfl, -, inside, -, rfl⟩ := qualifiedLength?_eq_some.mp named
  simp only [digitLength?, Option.ite_none_left_eq_some, Option.some.injEq] at counted
  obtain ⟨-, rfl⟩ := counted
  have worded : ∀ c ∈ (scope ++ ':' :: more).takeWhile Char.isDigit, isWordChar c :=
    fun c member => isWordChar_of_isDigit (List.all_eq_true.mp List.all_takeWhile c member)
  have within := length_le_takeWhile worded ((scope ++ ':' :: more).dropWhile Char.isDigit)
  rw [List.takeWhile_append_dropWhile, takeWhile_isWordChar_append inside] at within
  omega

/-- Of two rules that hold at the start of one text the earlier one reaches further. -/
theorem all_pairwise (rest : Text) :
    all.Pairwise fun earlier later => ∀ longer, earlier.length? rest = some longer →
      ∀ shorter, later.length? rest = some shorter → shorter < longer := by
  have order : all.Pairwise fun earlier later =>
      earlier ≠ later ∧ ¬ (earlier = .number ∧ later = .qualifiedName) := by decide
  refine order.imp ?_
  rintro earlier later ⟨different, forwards⟩ longer first shorter second
  cases rest with
  | nil => exact absurd (length?_bounds first) (by simp; omega)
  | cons c more =>
    rcases eq_of_opens (opens_of_length? first) (opens_of_length? second) with
      same | ⟨rfl, rfl⟩ | backwards
    · exact absurd same different
    · exact digitLength?_lt_qualifiedLength? first second
    · exact absurd backwards forwards

end Rule

/-- The matches of all rules at the start of a text, in the order of precedence. -/
def candidates (rest : Text) : List RuleMatch :=
  Rule.all.filterMap fun rule => (rule.length? rest).map (⟨rule, ·⟩)

theorem mem_candidates {found : RuleMatch} :
    found ∈ candidates rest ↔ found.rule.length? rest = some found.length := by
  constructor
  · intro member
    obtain ⟨rule, -, held⟩ := List.mem_filterMap.mp member
    obtain ⟨length, reached, rfl⟩ := Option.map_eq_some_iff.mp held
    exact reached
  · intro held
    exact List.mem_filterMap.mpr ⟨found.rule, Rule.mem_all _, by rw [held]; rfl⟩

theorem candidates_pairwise (rest : Text) :
    (candidates rest).Pairwise fun first second => second.length < first.length := by
  refine List.pairwise_filterMap.mpr ((Rule.all_pairwise rest).imp ?_)
  intro earlier later longer first held second after
  obtain ⟨length, reached, rfl⟩ := Option.map_eq_some_iff.mp held
  obtain ⟨other, behind, rfl⟩ := Option.map_eq_some_iff.mp after
  exact longer length reached other behind

theorem firstMatch?_eq_head? (rest : Text) : firstMatch? rest = (candidates rest).head? :=
  List.head?_filterMap.symm

theorem foldl_longer?_of_le {best : RuleMatch} {others : List RuleMatch}
    (longest : ∀ other ∈ others, other.length ≤ best.length) :
    others.foldl RuleMatch.longer? (some best) = some best := by
  induction others with
  | nil => rfl
  | cons candidate more ih =>
    have kept : RuleMatch.longer? (some best) candidate = some best :=
      if_neg (Nat.not_lt.mpr (longest candidate List.mem_cons_self))
    rw [List.foldl_cons, kept]
    exact ih fun other member => longest other (List.mem_cons_of_mem _ member)

theorem longestMatch?_eq_firstMatch? (rest : Text) : longestMatch? rest = firstMatch? rest := by
  have order := candidates_pairwise rest
  rw [firstMatch?_eq_head?]
  change (candidates rest).foldl RuleMatch.longer? none = _
  cases row : candidates rest with
  | nil => rfl
  | cons first more =>
    rw [row] at order
    exact foldl_longer?_of_le fun other member =>
      Nat.le_of_lt (List.rel_of_pairwise_cons order member)

theorem firstMatch?_eq_some_iff {found : RuleMatch} :
    firstMatch? rest = some found ↔
      found.rule.length? rest = some found.length ∧
        ∀ (rule : Rule) (length : Nat), rule.length? rest = some length →
          length ≤ found.length := by
  have order := candidates_pairwise rest
  have listed (rule : Rule) (length : Nat) (held : rule.length? rest = some length) :
      ⟨rule, length⟩ ∈ candidates rest := mem_candidates.mpr held
  rw [firstMatch?_eq_head?, ← mem_candidates]
  cases row : candidates rest with
  | nil => simp
  | cons first more =>
    rw [row] at order listed
    rw [List.head?_cons, Option.some.injEq]
    constructor
    · rintro rfl
      refine ⟨List.mem_cons_self, fun rule length held => ?_⟩
      rcases List.mem_cons.mp (listed rule length held) with same | later
      · exact Nat.le_of_eq (congrArg RuleMatch.length same)
      · exact Nat.le_of_lt (List.rel_of_pairwise_cons order later)
    · rintro ⟨member, longest⟩
      rcases List.mem_cons.mp member with rfl | later
      · rfl
      · have shorter := List.rel_of_pairwise_cons order later
        have held : first.rule.length? rest = some first.length :=
          mem_candidates.mp (row ▸ List.mem_cons_self)
        exact absurd (longest first.rule first.length held) (Nat.not_le.mpr shorter)

theorem firstMatch?_eq_none_iff :
    firstMatch? rest = none ↔
      ∀ (rule : Rule) (word : Text), rule.Accepts word → ¬ word <+: rest := by
  rw [firstMatch?_eq_head?, List.head?_eq_none_iff]
  constructor
  · rintro none rule word accepted ⟨back, rfl⟩
    obtain ⟨length, held, -⟩ := Rule.length?_of_accepts accepted back
    have member : ⟨rule, length⟩ ∈ candidates (word ++ back) := mem_candidates.mpr held
    rw [none] at member
    contradiction
  · intro refused
    apply List.eq_nil_iff_forall_not_mem.mpr
    intro found member
    exact refused found.rule _ (Rule.accepts_take _ (mem_candidates.mp member))
      (List.take_prefix _ _)

/-- The word begins the text, and no rule has a longer word that does. -/
structure IsLongest (rest : Text) (rule : Rule) (word : Text) : Prop where
  begins : word <+: rest
  accepted : rule.Accepts word
  longest : ∀ (other : Rule) (further : Text), other.Accepts further → further <+: rest →
    further.length ≤ word.length

theorem IsLongest.firstMatch? {rule : Rule} (longest : IsLongest rest rule word) :
    firstMatch? rest = some ⟨rule, word.length⟩ := by
  have reached (other : Rule) (length : Nat) (held : other.length? rest = some length) :
      length ≤ word.length := by
    have further := longest.longest other _ (Rule.accepts_take _ held) (List.take_prefix _ _)
    rwa [List.length_take_of_le (Rule.length?_bounds held).2] at further
  obtain ⟨back, rfl⟩ := longest.begins
  obtain ⟨length, held, least⟩ := Rule.length?_of_accepts longest.accepted back
  obtain rfl : length = word.length := Nat.le_antisymm (reached rule length held) least
  exact firstMatch?_eq_some_iff.mpr ⟨held, reached⟩

theorem isLongest_of_firstMatch? {found : RuleMatch} (first : firstMatch? rest = some found) :
    IsLongest rest found.rule (rest.take found.length) := by
  obtain ⟨held, longest⟩ := firstMatch?_eq_some_iff.mp first
  refine ⟨List.take_prefix _ _, Rule.accepts_take _ held, ?_⟩
  rintro other further accepted ⟨back, rfl⟩
  obtain ⟨length, reached, least⟩ := Rule.length?_of_accepts accepted back
  rw [List.length_take_of_le (Rule.length?_bounds held).2]
  exact Nat.le_trans least (longest other length reached)

/-- What a matcher of words may report about a text: the longest word, or a failure where
there is none. Of numbers it may report a failure too, as it may have read on in the hope
of a name, and it need not go back. -/
inductive MayReport (rest : Text) : MatchOutcome → Prop where
  | exhausted : rest = [] → MayReport rest .exhausted
  | matched {rule : Rule} {word : Text} : IsLongest rest rule word →
      MayReport rest (.matched ⟨rule, word.length⟩)
  | refused : rest ≠ [] →
      (∀ (rule : Rule) (word : Text), rule.Accepts word → ¬ word <+: rest) → MayReport rest .failed
  | abandoned {digits : Text} : IsLongest rest .number digits → MayReport rest .failed

/-- The rule that is found behind a report: after a failure digits have a second try. -/
def MatchOutcome.rule? (rest : Text) : MatchOutcome → Option RuleMatch
  | .exhausted => none
  | .matched found => some found
  | .failed => (Rule.digitLength? rest).map (⟨.number, ·⟩)

theorem matchRule?_eq_rule? (rest : Text) :
    matchRule? rest = (MatchOutcome.of rest).rule? rest := by
  rw [matchRule?]
  cases MatchOutcome.of rest <;> rfl

/-- The first rule is found whatever the matcher chose to report. -/
theorem MayReport.rule?_eq {outcome : MatchOutcome} (reported : MayReport rest outcome) :
    outcome.rule? rest = firstMatch? rest := by
  cases reported with
  | exhausted empty =>
    subst empty
    rfl
  | matched longest => exact longest.firstMatch?.symm
  | refused present none =>
    rw [firstMatch?_eq_none_iff.mpr none, MatchOutcome.rule?, Option.map_eq_none_iff,
      ← Option.not_isSome_iff_eq_none]
    intro counted
    obtain ⟨length, counted⟩ := Option.isSome_iff_exists.mp counted
    exact none .number _ (Rule.accepts_take .number counted) (List.take_prefix _ _)
  | abandoned longest =>
    have first := longest.firstMatch?
    obtain ⟨counted, -⟩ := firstMatch?_eq_some_iff.mp first
    rw [first, MatchOutcome.rule?]
    exact congrArg (Option.map _) counted

theorem mayReport_of (rest : Text) : MayReport rest (.of rest) := by
  unfold MatchOutcome.of
  split
  · rename_i empty
    exact .exhausted (List.isEmpty_iff.mp empty)
  · rename_i present
    rw [longestMatch?_eq_firstMatch?]
    split
    · rename_i found first
      have longest := isLongest_of_firstMatch? first
      obtain ⟨held, -⟩ := firstMatch?_eq_some_iff.mp first
      split
      · rename_i further
        rw [further.1] at longest
        exact .abandoned longest
      · have whole : (rest.take found.length).length = found.length :=
          List.length_take_of_le (Rule.length?_bounds held).2
        have reported := MayReport.matched longest
        rwa [whole] at reported
    · rename_i none
      refine .refused ?_ (firstMatch?_eq_none_iff.mp none)
      rintro rfl
      exact present rfl

/-- The class of the match and its width in bytes. -/
def RuleMatch.inBytes (rest : Text) (found : RuleMatch) : Category × Nat :=
  (found.rule.category, Text.size (rest.take found.length))

/-- The rule at the start of a text is the first one that holds there, for every matcher
that reports the longest word but may give up on a number; what is measured in bytes is a
word of that rule. -/
theorem matchRule?_eq_firstMatch? (rest : Text) :
    (∀ outcome, MayReport rest outcome → outcome.rule? rest = firstMatch? rest) ∧
      MayReport rest (.of rest) ∧
      matchRule? rest = firstMatch? rest ∧
      ∀ found, matchRule? rest = some found → ∃ word back, rest = word ++ back ∧
        found.rule.Accepts word ∧ found.inBytes rest = (found.rule.category, word.size) := by
  have reported := mayReport_of rest
  have same : matchRule? rest = firstMatch? rest :=
    (matchRule?_eq_rule? rest).trans reported.rule?_eq
  refine ⟨fun outcome other => other.rule?_eq, reported, same, fun found matched => ?_⟩
  have longest := isLongest_of_firstMatch? (same.symm.trans matched)
  exact ⟨_, _, (List.take_append_drop found.length rest).symm, longest.accepted, rfl⟩

/-- Digits and a colon that no name follows: a matcher that read on past the digits and
failed makes them a number all the same. -/
theorem rule?_of_abandoned_name :
    let rest : Text := ['1', '2', ':', '(']
    MayReport rest .failed ∧ MatchOutcome.failed.rule? rest = some ⟨.number, 2⟩ ∧
      matchRule? rest = some ⟨.number, 2⟩ ∧
      ∃ word back, rest = word ++ back ∧ Rule.number.Accepts word ∧
        RuleMatch.inBytes rest ⟨.number, 2⟩ = (.number, word.size) := by
  intro rest
  have first : firstMatch? rest = some ⟨.number, 2⟩ := by decide
  obtain ⟨any, -, same, word⟩ := matchRule?_eq_firstMatch? rest
  have abandoned : MayReport rest .failed := .abandoned (isLongest_of_firstMatch? first)
  have matched : matchRule? rest = some ⟨.number, 2⟩ := same.trans first
  exact ⟨abandoned, (any .failed abandoned).trans first, matched, word _ matched⟩

end DiagramEditor.Syntax

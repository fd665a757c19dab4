import DiagramEditor.CommandLine.Arguments

/-! The arguments that are accepted. Behind the command each argument is a flag that asks to write
or names the input. One at most may name the input, whether it comes before the flags or behind
them, so neither the acceptance nor the result depends on the order. -/
namespace DiagramEditor.CommandLine

variable {operands final : Operands} {argument name : String} {rest : List String}
  {invocation : Invocation} {path : Path}

def asksToWrite (argument : String) : Bool := argument = "--write" || argument = "-w"

/-- Whether an argument names the input: a single dash does, and what does not begin with one. -/
def namesInput (argument : String) : Bool :=
  argument = "-" || argument.toList.head? ≠ some '-'

/-- The input that an argument names; none for standard input. -/
def inputOf (argument : String) : Option Path := if argument = "-" then none else some argument

/-- A command, and behind it what may stand there. -/
structure IsInvocation (name : String) (rest : List String) : Prop where
  command : name ∈ ["format", "highlight", "render"]
  dashed : ∀ argument ∈ rest, argument.toList.head? = some '-' →
    argument ∈ ["-", "-w", "--write"]
  single : rest.countP namesInput ≤ 1
  write : (∃ argument ∈ rest, asksToWrite argument) →
    name = "format" ∧ ∃ path ∈ rest, namesInput path ∧ path ≠ "-"

theorem asksToWrite_iff : asksToWrite argument ↔ argument = "--write" ∨ argument = "-w" := by
  simp [asksToWrite]

theorem namesInput_iff :
    namesInput argument ↔ argument = "-" ∨ argument.toList.head? ≠ some '-' := by
  simp [namesInput]

theorem namesInput_of_asksToWrite (flag : asksToWrite argument) : namesInput argument = false := by
  rcases asksToWrite_iff.mp flag with rfl | rfl <;> decide

theorem dashed_iff :
    (argument.toList.head? = some '-' → argument ∈ ["-", "-w", "--write"]) ↔
      asksToWrite argument ∨ namesInput argument := by
  rw [asksToWrite_iff, namesInput_iff]
  simp only [List.mem_cons, List.not_mem_nil, or_false]
  grind

/-- One more argument asks to write, or names the input where there is none yet, or is refused. -/
theorem Operands.add_eq (operands : Operands) (argument : String) :
    operands.add argument =
      if asksToWrite argument then .ok { operands with write := true }
      else if namesInput argument then
        if operands.input?.isNone then .ok { operands with input? := some (inputOf argument) }
        else .error (.unexpectedArgument argument)
      else .error (.unknownOption argument) := by
  rw [add]
  cases flag : asksToWrite argument with
  | true =>
    rw [asksToWrite] at flag
    rw [if_pos flag, if_pos rfl]
  | false =>
    rw [asksToWrite] at flag
    rw [flag, if_neg Bool.false_ne_true, if_neg Bool.false_ne_true, namesInput, inputOf]
    by_cases single : argument = "-"
    · cases operands.input?.isNone <;> simp [single]
    · by_cases dashed : argument.toList.head? = some '-' <;> simp [single, dashed]

/-- What a row of arguments does: each is one of the two, and at most one names the input. -/
theorem foldlM_add_eq_ok :
    rest.foldlM Operands.add operands = .ok final ↔
      (∀ argument ∈ rest, asksToWrite argument ∨ namesInput argument) ∧
      rest.countP namesInput + operands.input?.toList.length ≤ 1 ∧
      ⟨operands.input?.or ((rest.find? namesInput).map inputOf),
        operands.write || rest.any asksToWrite⟩ = final := by
  induction rest generalizing operands with
  | nil =>
    have few : operands.input?.toList.length ≤ 1 := by cases operands.input? <;> simp
    simp [pure, Except.pure, few]
  | cons argument more ih =>
    rw [List.foldlM_cons, Operands.add_eq, List.forall_mem_cons, List.countP_cons,
      List.find?_cons, List.any_cons]
    cases flag : asksToWrite argument with
    | true =>
      have silent := namesInput_of_asksToWrite flag
      simpa [silent, bind, Except.bind] using @ih { operands with write := true }
    | false =>
      cases names : namesInput argument with
      | false => simp [bind, Except.bind]
      | true =>
        cases input : operands.input? with
        | none =>
          simpa [bind, Except.bind] using @ih { operands with input? := some (inputOf argument) }
        | some path => simp [bind, Except.bind]

theorem Command.ofName?_eq_format : Command.ofName? name = some .format ↔ name = "format" := by
  unfold Command.ofName?
  split <;> simp_all

theorem Command.exists_ofName? :
    (∃ command, Command.ofName? name = some command) ↔
      name ∈ ["format", "highlight", "render"] := by
  unfold Command.ofName?
  split <;> simp_all

theorem inputOf_eq_some : inputOf argument = some path ↔ argument = path ∧ path ≠ "-" := by
  rw [inputOf]
  grind

theorem find?_namesInput (single : rest.countP namesInput ≤ 1) :
    rest.find? namesInput = some argument ↔ argument ∈ rest ∧ namesInput argument := by
  constructor
  · exact fun found => ⟨List.mem_of_find?_eq_some found, List.find?_some found⟩
  · rintro ⟨member, names⟩
    rw [← List.head?_filter]
    rw [List.countP_eq_length_filter] at single
    have listed : argument ∈ rest.filter namesInput := List.mem_filter.mpr ⟨member, names⟩
    obtain ⟨first, only⟩ := List.length_eq_one_iff.mp
      (Nat.le_antisymm single (List.length_pos_of_mem listed))
    rw [only, List.mem_singleton] at listed
    rw [only, listed, List.head?_cons]

/-- The file of arguments that name one input at most. -/
def fileOf (rest : List String) : Option Path := (rest.find? namesInput).bind inputOf

theorem fileOf_eq_some (single : rest.countP namesInput ≤ 1) :
    fileOf rest = some path ↔ path ∈ rest ∧ namesInput path ∧ path ≠ "-" := by
  simp only [fileOf, Option.bind_eq_some_iff, inputOf_eq_some, find?_namesInput single]
  grind

theorem foldlM_add_empty_eq_ok :
    rest.foldlM Operands.add {} = .ok final ↔
      (∀ argument ∈ rest, asksToWrite argument ∨ namesInput argument) ∧
      rest.countP namesInput ≤ 1 ∧
      ⟨(rest.find? namesInput).map inputOf, rest.any asksToWrite⟩ = final := by
  simpa using @foldlM_add_eq_ok {} final rest

theorem parseArguments_eq_ok :
    parseArguments (name :: rest) = .ok invocation ↔
      Command.ofName? name = some invocation.command ∧
        (∀ argument ∈ rest, asksToWrite argument ∨ namesInput argument) ∧
        rest.countP namesInput ≤ 1 ∧
        (invocation.write → invocation.command = .format ∧ invocation.file?.isSome) ∧
        invocation.file? = fileOf rest ∧ invocation.write = rest.any asksToWrite := by
  rw [parseArguments]
  cases named : Command.ofName? name with
  | none => simp
  | some command =>
    cases reads : rest.foldlM Operands.add {} with
    | error error =>
      have refused : ¬((∀ argument ∈ rest, asksToWrite argument ∨ namesInput argument) ∧
          rest.countP namesInput ≤ 1) := by
        rintro ⟨known, single⟩
        have accepted := foldlM_add_empty_eq_ok.mpr ⟨known, single, rfl⟩
        rw [reads] at accepted
        cases accepted
      grind
    | ok operands =>
      obtain ⟨known, single, rfl⟩ := foldlM_add_empty_eq_ok.mp reads
      obtain ⟨command', file?, write⟩ := invocation
      have joined : Option.join ((rest.find? namesInput).map inputOf) = fileOf rest := by
        rw [fileOf]
        cases rest.find? namesInput <;> rfl
      simp only [joined, Option.some.injEq]
      generalize rest.any asksToWrite = flag
      cases flag <;> cases fileOf rest <;> grind

theorem isInvocation_iff :
    IsInvocation name rest ↔ ∃ invocation, parseArguments (name :: rest) = .ok invocation := by
  have written : (∃ argument ∈ rest, asksToWrite argument) ↔ rest.any asksToWrite := by
    rw [List.any_eq_true]
  simp only [parseArguments_eq_ok]
  constructor
  · rintro ⟨named, dashed, single, write⟩
    obtain ⟨command, named⟩ := Command.exists_ofName?.mpr named
    refine ⟨⟨command, fileOf rest, rest.any asksToWrite⟩, named,
      fun argument member => dashed_iff.mp (dashed argument member), single,
      fun flag => ?_, rfl, rfl⟩
    obtain ⟨rfl, path, member, names, file⟩ := write (written.mpr flag)
    rw [(fileOf_eq_some single).mpr ⟨member, names, file⟩]
    exact ⟨Option.some.inj named.symm, rfl⟩
  · rintro ⟨⟨command, file?, write⟩, named, known, single, allowed, rfl, rfl⟩
    refine ⟨Command.exists_ofName?.mp ⟨command, named⟩,
      fun argument member => dashed_iff.mpr (known argument member), single, fun flag => ?_⟩
    obtain ⟨rfl, present⟩ := allowed (written.mp flag)
    obtain ⟨path, file⟩ := Option.isSome_iff_exists.mp present
    exact ⟨Command.ofName?_eq_format.mp named, path, (fileOf_eq_some single).mp file⟩

/-- A row of arguments is accepted exactly if it is a command with what may stand behind it. What
comes of it does not depend on the order, and whoever asks to write names a file. -/
theorem parseArguments_follows_grammar (arguments : List String) :
    ((∃ invocation, parseArguments arguments = .ok invocation) ↔
      ∃ name rest, arguments = name :: rest ∧ IsInvocation name rest) ∧
    ∀ name rest invocation, arguments = name :: rest →
      parseArguments arguments = .ok invocation →
        Command.ofName? name = some invocation.command ∧
        (invocation.write ↔ ∃ argument ∈ rest, asksToWrite argument) ∧
        (∀ path, invocation.file? = some path ↔ path ∈ rest ∧ namesInput path ∧ path ≠ "-") ∧
        (∀ other, other.Perm rest → parseArguments (name :: other) = .ok invocation) ∧
        (invocation.write → invocation.file?.isSome) := by
  constructor
  · cases arguments with
    | nil => simp [parseArguments]
    | cons name rest =>
      rw [← isInvocation_iff]
      constructor
      · exact fun follows => ⟨name, rest, rfl, follows⟩
      · rintro ⟨_, _, same, follows⟩
        cases same
        exact follows
  · rintro name rest invocation rfl accepted
    obtain ⟨named, known, single, allowed, file, write⟩ := parseArguments_eq_ok.mp accepted
    have located (path : Path) := file ▸ @fileOf_eq_some rest path single
    refine ⟨named, by rw [write, List.any_eq_true], located, fun other same => ?_,
      fun flag => (allowed flag).2⟩
    have single' : other.countP namesInput ≤ 1 := same.countP_eq namesInput ▸ single
    refine parseArguments_eq_ok.mpr
      ⟨named, fun argument member => known argument (same.mem_iff.mp member), single',
        allowed, ?_, ?_⟩
    · refine Option.ext fun path => ?_
      rw [located, fileOf_eq_some single', same.mem_iff]
    · rw [write, same.any_eq]

/-- The empty text is a path like any other, and may stand between two flags or before them. -/
theorem parseArguments_follows_grammar_of_empty_path :
    parseArguments ["format", "-w", "", "--write"] = .ok ⟨.format, some "", true⟩ ∧
      parseArguments ["format", "", "--write", "-w"] = .ok ⟨.format, some "", true⟩ ∧
      namesInput "" := by
  have accepted : parseArguments ["format", "-w", "", "--write"] = .ok ⟨.format, some "", true⟩ :=
    rfl
  obtain ⟨-, -, file, order, -⟩ :=
    (parseArguments_follows_grammar _).2 "format" ["-w", "", "--write"] _ rfl accepted
  exact ⟨accepted, order ["", "--write", "-w"] (by decide), ((file "").mp rfl).2.1⟩

end DiagramEditor.CommandLine

import DiagramEditor.CommandLine.Run
import DiagramEditor.Proofs.SourceFile.Format

/-! Formatting from the command line. A run whose arguments and settings are in order comes
to its command, and reports what that did. -/
namespace DiagramEditor.CommandLine

variable {machine : Machine} {program : String} {arguments : List String}
  {invocation : Invocation} {config : Config} {options : FormatOptions} {file? : Option Path}
  {path : Path} {write : Bool} {bytes : Bytes} {source output : Text} {notices : List Notice}
  {files : FileSystem}

/-- The bytes that a run gets to work on: those of its file, or those handed in. -/
inductive Machine.Given (machine : Machine) : Option Path → Bytes → Prop
  | stdin : Given machine none machine.stdin
  | file {path : Path} {bytes : Bytes} :
    machine.files.readFile path = .ok bytes → Given machine (some path) bytes

/-- The arguments ask for a text to be formatted, the settings hold the options, and the text
is given by some bytes. -/
structure AsksToFormat (machine : Machine) (arguments : List String) (options : FormatOptions)
    (file? : Option Path) (write : Bool) (bytes : Bytes) : Prop where
  parsed : parseArguments arguments = .ok ⟨.format, file?, write⟩
  configured : ∃ config, Config.loadOrDefault machine.files machine.environment = .ok config ∧
    config.formatOptions = .ok options
  given : machine.Given file? bytes

theorem Machine.Given.readFile (given : machine.Given (some path) bytes) :
    machine.files.readFile path = .ok bytes := by
  cases given with
  | file held => exact held

theorem readInput_of_given (given : machine.Given file? bytes) :
    readInput machine file? = .ok bytes := by
  cases given with
  | stdin => rfl
  | file held =>
    rw [readInput, SourceFile.read_eq_ok.mpr held]
    rfl

theorem run_of_ok (parsed : parseArguments arguments = .ok invocation)
    (loaded : Config.loadOrDefault machine.files machine.environment = .ok config)
    (success : (execute machine config invocation).result = .ok output) :
    run machine program arguments =
      ⟨0, output, (execute machine config invocation).notices,
        (execute machine config invocation).files⟩ := by
  simp only [run, parsed, loaded, success]

theorem run_of_error {error : RunError} (parsed : parseArguments arguments = .ok invocation)
    (loaded : Config.loadOrDefault machine.files machine.environment = .ok config)
    (failure : (execute machine config invocation).result = .error error) :
    run machine program arguments =
      ⟨1, [], (execute machine config invocation).notices ++ [.error error.report],
        (execute machine config invocation).files⟩ := by
  simp only [run, parsed, loaded, failure]

/-- Without the flag, the formatted text goes to the output and a newline behind it. -/
theorem run_format (asks : AsksToFormat machine arguments options file? false source.toUtf8) :
    run machine program arguments =
      ⟨0, formatSource options source ++ ['\n'], [], machine.files⟩ := by
  obtain ⟨config, loaded, accepted⟩ := asks.configured
  have did : execute machine config ⟨.format, file?, false⟩ =
      ⟨.ok (formatSource options source ++ ['\n']), [], machine.files⟩ := by
    simp only [execute, format, accepted, formatToOutput, readInput_of_given asks.given,
      formatBytes_toUtf8]
  rw [run_of_ok asks.parsed loaded (congrArg Effect.result did), did]

/-- With it, the file is formatted in place. -/
theorem run_format_write {changed : Bool}
    (asks : AsksToFormat machine arguments options (some path) true bytes)
    (formats : SourceFile.format machine.files path options = (.ok changed, files)) :
    ∃ notices, run machine program arguments = ⟨0, [], notices, files⟩ := by
  obtain ⟨config, loaded, accepted⟩ := asks.configured
  have success : (execute machine config ⟨.format, some path, true⟩).result = .ok [] := by
    simp only [execute, format, accepted, formatInPlace, formats]
  have left : (execute machine config ⟨.format, some path, true⟩).files = files := by
    simp only [execute, format, accepted, formatInPlace, formats]
  exact ⟨_, by rw [run_of_ok asks.parsed loaded success, left]⟩

theorem run_format_of_decode_eq_error {error : Utf8.DecodeError}
    (asks : AsksToFormat machine arguments options file? write bytes)
    (refused : Utf8.decode bytes = .error error) :
    ∃ notices, run machine program arguments = ⟨1, [], notices, machine.files⟩ := by
  obtain ⟨config, loaded, accepted⟩ := asks.configured
  have toOutput : formatToOutput machine options file? =
      .error (.format (.invalidUtf8 error)) := by
    simp only [formatToOutput, readInput_of_given asks.given,
      formatBytes_of_decode_eq_error refused]
  obtain ⟨reason, failure, kept⟩ : ∃ reason,
      (execute machine config ⟨.format, file?, write⟩).result = .error reason ∧
        (execute machine config ⟨.format, file?, write⟩).files = machine.files := by
    simp only [execute, format, accepted]
    cases asks.given with
    | stdin => cases write <;> exact ⟨_, toOutput, rfl⟩
    | file held =>
      cases write with
      | false => exact ⟨_, toOutput, rfl⟩
      | true =>
        simp only [formatInPlace, SourceFile.format_of_decode_eq_error held refused]
        exact ⟨_, rfl, trivial⟩
  exact ⟨_, by rw [run_of_error asks.parsed loaded failure, kept]⟩

end DiagramEditor.CommandLine

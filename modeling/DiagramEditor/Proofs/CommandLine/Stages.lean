import DiagramEditor.CommandLine.Stages
import DiagramEditor.Proofs.CommandLine.Arguments
import DiagramEditor.Proofs.CommandLine.Format
import DiagramEditor.Proofs.SourceFile.Stages

/-! The steps of a run can lead to where it ends in one go, one lemma for each command. -/
namespace DiagramEditor.CommandLine

variable {machine : Machine} {program : String} {arguments : List String}
  {invocation : Invocation} {config : Config} {options : FormatOptions} {path : Path}
  {files : FileSystem} {stdout : Text}

theorem write_of_parsed (parsed : parseArguments arguments = .ok invocation) :
    invocation.write → invocation.command = .format ∧ invocation.file?.isSome := by
  cases arguments with
  | nil => cases parsed
  | cons name rest => exact (parseArguments_eq_ok.mp parsed).2.2.2.1

theorem reaches_printed : Reaches machine arguments ⟨files, [], .printing stdout⟩
    ⟨files, stdout, .finished 0⟩ := by
  have print : Step machine arguments ⟨files, [], .printing stdout⟩
      ⟨files, stdout, .printing []⟩ := by
    simpa only [List.append_nil, List.nil_append] using
      @Step.print machine arguments files [] stdout []
  exact (Relation.ReflTransGen.single print).tail .printed

theorem reaches_rewritten {stage stage' : SourceFile.Stage} {behind : FileSystem}
    (reached : SourceFile.Reaches path ⟨files, stage⟩ ⟨behind, stage'⟩) :
    Reaches machine arguments ⟨files, [], .rewriting path stage⟩
      ⟨behind, [], .rewriting path stage'⟩ := by
  have onward (before after : SourceFile.Moment) (step : SourceFile.Step path before after) :
      Step machine arguments ⟨before.files, [], .rewriting path before.stage⟩
        ⟨after.files, [], .rewriting path after.stage⟩ := .rewriteOn step
  exact Relation.ReflTransGen.lift
    (fun moment : SourceFile.Moment =>
      (⟨moment.files, [], .rewriting path moment.stage⟩ : Moment)) onward _ _ reached

theorem reaches_handling {bytes : Bytes}
    (input : readInput machine invocation.file? = .ok bytes) :
    Reaches machine arguments ⟨machine.files, [], .reading invocation config⟩
      ⟨machine.files, [], .handling invocation config bytes⟩ :=
  .single (.read input)

theorem reaches_formatInPlace (valid : config.formatOptions = .ok options) :
    Reaches machine arguments ⟨machine.files, [], .called ⟨.format, some path, true⟩ config⟩
      (formatInPlace machine options path).moment := by
  have started : Reaches machine arguments
      ⟨machine.files, [], .called ⟨.format, some path, true⟩ config⟩
      ⟨machine.files, [], .rewriting path (.reading options)⟩ := .single (.rewrite valid)
  have rewritten := started.trans
    (reaches_rewritten (SourceFile.reaches_format machine.files path options))
  rw [formatInPlace]
  cases formats : SourceFile.format machine.files path options with
  | mk result behind =>
    rw [formats] at rewritten
    cases result with
    | ok changed => exact rewritten.tail .rewritten
    | error error => exact rewritten.tail .rewriteFails

theorem reaches_formatToOutput {file? : Option Path} {write : Bool}
    (valid : config.formatOptions = .ok options) :
    Reaches machine arguments ⟨machine.files, [], .reading ⟨.format, file?, write⟩ config⟩
      (Effect.mk (formatToOutput machine options file?) [] machine.files).moment := by
  rw [formatToOutput]
  cases input : readInput machine file? with
  | error error => exact .single (.readFails input)
  | ok bytes =>
    refine (reaches_handling input).trans ?_
    dsimp only
    cases formats : formatBytes options bytes with
    | error error => exact .single (.formatFails valid formats)
    | ok formatted => exact reaches_printed.head (.format valid formats)

/-- A command that needs a text is given one, or the run has failed. -/
theorem readText_cases (other : invocation.command ≠ .format) :
    (∃ error, readText machine invocation.file? = .error error ∧
      Reaches machine arguments ⟨machine.files, [], .reading invocation config⟩
        ⟨machine.files, [], .finished 1⟩) ∨
    ∃ bytes source, readText machine invocation.file? = .ok source ∧
      Utf8.decode bytes = .ok source ∧
      Reaches machine arguments ⟨machine.files, [], .reading invocation config⟩
        ⟨machine.files, [], .handling invocation config bytes⟩ := by
  rw [readText]
  cases input : readInput machine invocation.file? with
  | error error => exact .inl ⟨error, rfl, .single (.readFails input)⟩
  | ok bytes =>
    dsimp only
    cases decoded : Utf8.decode bytes with
    | error error =>
      exact .inl ⟨_, rfl, (reaches_handling input).tail (.notText other decoded)⟩
    | ok source => exact .inr ⟨bytes, source, rfl, decoded, reaches_handling input⟩

theorem reaches_highlight {file? : Option Path} {write : Bool} :
    Reaches machine arguments ⟨machine.files, [], .reading ⟨.highlight, file?, write⟩ config⟩
      (Effect.mk (highlight machine config file?) [] machine.files).moment := by
  have other : Command.highlight ≠ .format := by decide
  rcases @readText_cases machine arguments ⟨.highlight, file?, write⟩ config other with
    ⟨error, failure, failed⟩ | ⟨bytes, source, success, decoded, read⟩
  · rw [highlight, failure]
    exact failed
  · rw [highlight, success]
    refine read.trans ?_
    dsimp only
    cases themed : config.highlightTheme with
    | error error => exact .single (.themeFails decoded themed)
    | ok theme => exact reaches_printed.head (.highlight decoded themed)

theorem reaches_render {file? : Option Path} {write : Bool} :
    Reaches machine arguments ⟨machine.files, [], .reading ⟨.render, file?, write⟩ config⟩
      (render machine config file?).moment := by
  have other : Command.render ≠ .format := by decide
  rcases @readText_cases machine arguments ⟨.render, file?, write⟩ config other with
    ⟨error, failure, failed⟩ | ⟨bytes, source, success, decoded, read⟩
  · rw [render, failure]
    exact failed
  · rw [render, success]
    refine read.trans ?_
    dsimp only
    cases valid : config.formatOptions with
    | error error => exact .single (.sessionFails decoded valid)
    | ok options =>
      dsimp only
      cases rendered : renderSource (Config.renderer machine.programs config)
          config.render.debounceMs options source with
      | mk result notices =>
        cases result with
        | error error => exact .single (.renderFails decoded valid rendered)
        | ok output => exact reaches_printed.head (.render decoded valid rendered)

theorem reaches_execute (parsed : parseArguments arguments = .ok invocation) :
    Reaches machine arguments ⟨machine.files, [], .called invocation config⟩
      (execute machine config invocation).moment := by
  obtain ⟨command, file?, write⟩ := invocation
  have allowed : write = true → command = .format ∧ file?.isSome := write_of_parsed parsed
  cases command with
  | format =>
    rw [execute, format]
    cases valid : config.formatOptions with
    | error error => exact .single (.optionsFail valid)
    | ok options =>
      cases write with
      | false => exact (reaches_formatToOutput valid).head (.openInput rfl fun _ => ⟨_, valid⟩)
      | true =>
        obtain ⟨path, rfl⟩ := Option.isSome_iff_exists.mp (allowed rfl).2
        exact reaches_formatInPlace valid
  | highlight =>
    cases write with
    | false => exact reaches_highlight.head (.openInput rfl fun other => by cases other)
    | true => cases (allowed rfl).1
  | render =>
    cases write with
    | false => exact reaches_render.head (.openInput rfl fun other => by cases other)
    | true => cases (allowed rfl).1

theorem moment_run (parsed : parseArguments arguments = .ok invocation)
    (loaded : Config.loadOrDefault machine.files machine.environment = .ok config) :
    (run machine program arguments).moment = (execute machine config invocation).moment := by
  rw [Effect.moment]
  cases result : (execute machine config invocation).result with
  | ok output =>
    rw [run_of_ok parsed loaded result]
    rfl
  | error error =>
    rw [run_of_error parsed loaded result]
    rfl

/-- The steps can lead to where the run ends. -/
theorem reaches_run (machine : Machine) (program : String) (arguments : List String) :
    Reaches machine arguments machine.start (run machine program arguments).moment := by
  cases parsed : parseArguments arguments with
  | error error =>
    rw [run, parsed]
    exact .single (.refuse parsed)
  | ok invocation =>
    refine .head (.parse parsed) ?_
    cases loaded : Config.loadOrDefault machine.files machine.environment with
    | error error =>
      rw [run, parsed]
      dsimp only
      rw [loaded]
      exact .single (.loadFails loaded)
    | ok config =>
      rw [moment_run parsed loaded]
      exact (reaches_execute parsed).head (.load loaded)

end DiagramEditor.CommandLine

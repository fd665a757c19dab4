import Mathlib.Logic.Relation
import DiagramEditor.CommandLine.Run
import DiagramEditor.SourceFile.Stages

/-! A run of the command line call by call. The output is written piece by piece, and a file that
is formatted in place is replaced call by call. Standard input may turn out unreadable, and the
wait for the renderer may be over too early. What is told on the standard error is left out. -/
namespace DiagramEditor.CommandLine

/-- What is to be done next. -/
inductive Stage where
  | starting
  | loading (invocation : Invocation)
  | called (invocation : Invocation) (config : Config)
  | reading (invocation : Invocation) (config : Config)
  /-- The input is read, and becomes an output or an error. -/
  | handling (invocation : Invocation) (config : Config) (input : Bytes)
  /-- A file is formatted in place. -/
  | rewriting (path : Path) (stage : SourceFile.Stage)
  /-- Some of the output is left to be written. -/
  | printing (left : Text)
  /-- Nothing. The code says how the run went. -/
  | finished (code : Nat)

structure Moment where
  files : FileSystem
  stdout : Text
  stage : Stage

def Machine.start (machine : Machine) : Moment := ⟨machine.files, [], .starting⟩

def Report.moment (report : Report) : Moment :=
  ⟨report.files, report.stdout, .finished report.exitCode⟩

/-- Where a run ends with what a command did. -/
def Effect.moment (effect : Effect) : Moment :=
  match effect.result with
  | .ok output => ⟨effect.files, output, .finished 0⟩
  | .error _ => ⟨effect.files, [], .finished 1⟩

/-- One call, or the decision between two calls. -/
inductive Step (machine : Machine) (arguments : List String) : Moment → Moment → Prop where
  | parse {files stdout invocation} : parseArguments arguments = .ok invocation →
    Step machine arguments ⟨files, stdout, .starting⟩ ⟨files, stdout, .loading invocation⟩
  | refuse {files stdout error} : parseArguments arguments = .error error →
    Step machine arguments ⟨files, stdout, .starting⟩ ⟨files, stdout, .finished 1⟩
  | load {files stdout invocation config} :
    Config.loadOrDefault files machine.environment = .ok config →
    Step machine arguments ⟨files, stdout, .loading invocation⟩
      ⟨files, stdout, .called invocation config⟩
  | loadFails {files stdout invocation error} :
    Config.loadOrDefault files machine.environment = .error error →
    Step machine arguments ⟨files, stdout, .loading invocation⟩ ⟨files, stdout, .finished 1⟩
  /-- To format, the options are needed before the input. -/
  | optionsFail {files stdout file? write config error} :
    config.formatOptions = .error error →
    Step machine arguments ⟨files, stdout, .called ⟨.format, file?, write⟩ config⟩
      ⟨files, stdout, .finished 1⟩
  | rewrite {files stdout path config options} : config.formatOptions = .ok options →
    Step machine arguments ⟨files, stdout, .called ⟨.format, some path, true⟩ config⟩
      ⟨files, stdout, .rewriting path (.reading options)⟩
  | openInput {files stdout invocation config} : invocation.write = false →
    (invocation.command = .format → ∃ options, config.formatOptions = .ok options) →
    Step machine arguments ⟨files, stdout, .called invocation config⟩
      ⟨files, stdout, .reading invocation config⟩
  | read {files stdout invocation config bytes} :
    readInput { machine with files := files } invocation.file? = .ok bytes →
    Step machine arguments ⟨files, stdout, .reading invocation config⟩
      ⟨files, stdout, .handling invocation config bytes⟩
  | readFails {files stdout invocation config error} :
    readInput { machine with files := files } invocation.file? = .error error →
    Step machine arguments ⟨files, stdout, .reading invocation config⟩
      ⟨files, stdout, .finished 1⟩
  | stdinFails {files stdout invocation config} : invocation.file? = none →
    Step machine arguments ⟨files, stdout, .reading invocation config⟩
      ⟨files, stdout, .finished 1⟩
  | format {files stdout file? write config options bytes formatted} :
    config.formatOptions = .ok options → formatBytes options bytes = .ok formatted →
    Step machine arguments ⟨files, stdout, .handling ⟨.format, file?, write⟩ config bytes⟩
      ⟨files, stdout, .printing (formatted ++ ['\n'])⟩
  | formatFails {files stdout file? write config options bytes error} :
    config.formatOptions = .ok options → formatBytes options bytes = .error error →
    Step machine arguments ⟨files, stdout, .handling ⟨.format, file?, write⟩ config bytes⟩
      ⟨files, stdout, .finished 1⟩
  | notText {files stdout invocation config bytes error} : invocation.command ≠ .format →
    Utf8.decode bytes = .error error →
    Step machine arguments ⟨files, stdout, .handling invocation config bytes⟩
      ⟨files, stdout, .finished 1⟩
  | highlight {files stdout file? write config bytes source theme} :
    Utf8.decode bytes = .ok source → config.highlightTheme = .ok theme →
    Step machine arguments ⟨files, stdout, .handling ⟨.highlight, file?, write⟩ config bytes⟩
      ⟨files, stdout, .printing (Terminal.writeHighlighted theme source)⟩
  | themeFails {files stdout file? write config bytes source error} :
    Utf8.decode bytes = .ok source → config.highlightTheme = .error error →
    Step machine arguments ⟨files, stdout, .handling ⟨.highlight, file?, write⟩ config bytes⟩
      ⟨files, stdout, .finished 1⟩
  | sessionFails {files stdout file? write config bytes source error} :
    Utf8.decode bytes = .ok source → config.formatOptions = .error error →
    Step machine arguments ⟨files, stdout, .handling ⟨.render, file?, write⟩ config bytes⟩
      ⟨files, stdout, .finished 1⟩
  | render {files stdout file? write config bytes source options output notices} :
    Utf8.decode bytes = .ok source → config.formatOptions = .ok options →
    renderSource (Config.renderer machine.programs config) config.render.debounceMs options
      source = (.ok output, notices) →
    Step machine arguments ⟨files, stdout, .handling ⟨.render, file?, write⟩ config bytes⟩
      ⟨(Config.renderCommand config).filesBehind machine.programs files source, stdout,
        .printing output⟩
  | renderFails {files stdout file? write config bytes source options error notices} :
    Utf8.decode bytes = .ok source → config.formatOptions = .ok options →
    renderSource (Config.renderer machine.programs config) config.render.debounceMs options
      source = (.error error, notices) →
    Step machine arguments ⟨files, stdout, .handling ⟨.render, file?, write⟩ config bytes⟩
      ⟨(Config.renderCommand config).filesBehind machine.programs files source, stdout,
        .finished 1⟩
  /-- The renderer has not finished in time; it has not changed files yet. -/
  | timesOut {files stdout file? write config bytes} :
    Step machine arguments ⟨files, stdout, .handling ⟨.render, file?, write⟩ config bytes⟩
      ⟨files, stdout, .finished 1⟩
  | rewriteOn {files stdout path stage behind next} :
    SourceFile.Step path ⟨files, stage⟩ ⟨behind, next⟩ →
    Step machine arguments ⟨files, stdout, .rewriting path stage⟩
      ⟨behind, stdout, .rewriting path next⟩
  | rewritten {files stdout path changed} :
    Step machine arguments ⟨files, stdout, .rewriting path (.finished (.ok changed))⟩
      ⟨files, stdout, .finished 0⟩
  | rewriteFails {files stdout path error} :
    Step machine arguments ⟨files, stdout, .rewriting path (.finished (.error error))⟩
      ⟨files, stdout, .finished 1⟩
  | print {files stdout piece left} :
    Step machine arguments ⟨files, stdout, .printing (piece ++ left)⟩
      ⟨files, stdout ++ piece, .printing left⟩
  | printed {files stdout} :
    Step machine arguments ⟨files, stdout, .printing []⟩ ⟨files, stdout, .finished 0⟩

/-- Any number of steps. -/
abbrev Reaches (machine : Machine) (arguments : List String) : Moment → Moment → Prop :=
  Relation.ReflTransGen (Step machine arguments)

end DiagramEditor.CommandLine

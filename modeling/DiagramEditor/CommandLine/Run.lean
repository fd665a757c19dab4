import DiagramEditor.CommandLine.Arguments
import DiagramEditor.Config.Store
import DiagramEditor.Highlight.Terminal
import DiagramEditor.Render.Command
import DiagramEditor.Session
import DiagramEditor.SourceFile

/-! A run of the command line, as a function of the machine it runs on. What goes to the
standard output is written only once nothing can fail any more. An error is reported
with its causes, each after a colon, although its own text already ends with them. -/
namespace DiagramEditor.CommandLine

/-- What a run can see and use. -/
structure Machine where
  files : FileSystem
  environment : Environment
  stdin : Bytes
  programs : Programs

/-- A line of the standard error: as it is, or as an entry of the log. -/
inductive Notice where
  | plain (text : String)
  | info (text : String)
  | error (text : String)
deriving DecidableEq, Repr

/-- What a notice says. The lines of a log entry behind its first one are indented by four
blanks, the empty ones too. -/
def Notice.body : Notice → String
  | plain text => text
  | info text | error text =>
    String.ofList (text.toList.flatMap fun c => if c = '\n' then "\n    ".toList else [c])

/-- What a run leaves behind. -/
structure Report where
  exitCode : Nat
  stdout : Text
  notices : List Notice
  files : FileSystem

inductive RunError where
  | format (error : FormatError)
  | file (error : SourceFileError)
  | config (error : ConfigError)
  | inputNotText (error : Utf8.DecodeError)
  | renderFailed (reason : String)
  | renderWithoutOutput
  | renderUnfinished
deriving DecidableEq, Repr

/-- The texts of an error and of its causes. -/
def formatErrorChain (error : FormatError) : List String :=
  error.message ::
    match error with
    | .invalidIndentSize _ => []
    | .invalidUtf8 cause => [cause.message]

def RunError.chain : RunError → List String
  | format error => formatErrorChain error
  | file error =>
    error.message ::
      match error with
      | .notFound _ => []
      | .access cause => [cause.message]
      | .format _ cause => formatErrorChain cause
  | config error =>
    error.message ::
      match error with
      | .unreadable _ cause => [cause.message]
      | .malformed _ => []
      | .invalidColor _ cause => [cause.message]
  | inputNotText cause => ["Input is not valid UTF-8", cause.message]
  | renderFailed reason => ["Render failed: " ++ reason]
  | renderWithoutOutput => ["Renderer produced no output"]
  | renderUnfinished => ["Renderer did not finish within 60s"]

def RunError.report (error : RunError) : String := ": ".intercalate error.chain

/-- What a command did: its output or its error, its log, and the files behind it. -/
structure Effect where
  result : Except RunError Text
  notices : List Notice := []
  files : FileSystem

def readInput (machine : Machine) : Option Path → Except RunError Bytes
  | some path => (SourceFile.read machine.files path).mapError .file
  | none => .ok machine.stdin

def readText (machine : Machine) (file? : Option Path) : Except RunError Text :=
  match readInput machine file? with
  | .error error => .error error
  | .ok bytes => (Utf8.decode bytes).mapError .inputNotText

/-- The log entry for a file that could not be formatted. -/
def formatNotices : SourceFileError → List Notice
  | .format path error => [.error s!"Failed to format {path}: {error.message}"]
  | _ => []

def formatInPlace (machine : Machine) (options : FormatOptions) (path : Path) : Effect :=
  match SourceFile.format machine.files path options with
  | (.error error, files) => ⟨.error (.file error), formatNotices error, files⟩
  | (.ok changed, files) =>
    let what := if changed then "Formatted" else "Already formatted"
    ⟨.ok [], [.info s!"{what} {path}"], files⟩

def formatToOutput (machine : Machine) (options : FormatOptions) (file? : Option Path) :
    Except RunError Text :=
  match readInput machine file? with
  | .error error => .error error
  | .ok bytes =>
    match formatBytes options bytes with
    | .error error => .error (.format error)
    | .ok formatted => .ok (formatted ++ ['\n'])

def format (machine : Machine) (config : Config) (invocation : Invocation) : Effect :=
  match config.formatOptions with
  | .error error => ⟨.error (.format error), [], machine.files⟩
  | .ok options =>
    match invocation.write, invocation.file? with
    | true, some path => formatInPlace machine options path
    | _, file? => ⟨formatToOutput machine options file?, [], machine.files⟩

def highlight (machine : Machine) (config : Config) (file? : Option Path) :
    Except RunError Text :=
  match readText machine file? with
  | .error error => .error error
  | .ok source =>
    match config.highlightTheme with
    | .error error => .error (.config error)
    | .ok theme => .ok (Terminal.writeHighlighted theme source)

/-- The outcome of the first render of a session, with the session behind it. -/
def firstRender (render : Renderer) (session : Session) : Option (RenderOutcome × Session) :=
  Session.wait?
    { session with worker := (session.worker.settle render).release render }

/-- Renders a source in a session of its own. -/
def renderSource (render : Renderer) (debounce : Nat) (options : FormatOptions) (source : Text) :
    Except RunError Text × List Notice :=
  match firstRender render (.start source debounce options) with
  | none => (.error .renderUnfinished, [])
  | some (.applied, session) =>
    match session.svg? with
    | some svg => (.ok (svg ++ ['\n']), [])
    | none => (.error .renderWithoutOutput, [])
  | some (outcome, session) =>
    let reason := session.lastError?.getD "unknown error"
    (.error (.renderFailed reason),
      if outcome = .failed then [.error ("Failed to render diagram: " ++ reason)] else [])

def Config.renderCommand (config : Config) : CommandRenderer :=
  ⟨config.render.command, config.render.args⟩

def Config.renderer (programs : Programs) (config : Config) : Renderer :=
  (renderCommand config).render programs

/-- Renders a source once. The renderer may leave other files than it found. -/
def render (machine : Machine) (config : Config) (file? : Option Path) : Effect :=
  match readText machine file? with
  | .error error => ⟨.error error, [], machine.files⟩
  | .ok source =>
    match config.formatOptions with
    | .error error => ⟨.error (.format error), [], machine.files⟩
    | .ok options =>
      let renderer := Config.renderer machine.programs config
      let (result, notices) := renderSource renderer config.render.debounceMs options source
      let command := Config.renderCommand config
      ⟨result, notices, command.filesBehind machine.programs machine.files source⟩

def execute (machine : Machine) (config : Config) (invocation : Invocation) : Effect :=
  match invocation.command with
  | .format => format machine config invocation
  | .highlight => ⟨highlight machine config invocation.file?, [], machine.files⟩
  | .render => render machine config invocation.file?

def usage (program : String) : String :=
  s!"Usage: {program} <format|highlight|render> [FILE|-] [--write]"

/-- The whole run. `program` is the name under which the command line was started. -/
def run (machine : Machine) (program : String) (arguments : List String) : Report :=
  match parseArguments arguments with
  | .error error =>
    ⟨1, [], [.plain ("Error: " ++ error.message), .plain (usage program)], machine.files⟩
  | .ok invocation =>
    match Config.loadOrDefault machine.files machine.environment with
    | .error error =>
      let location := Config.defaultPath machine.environment
      ⟨1, [], [.plain ("Error: Failed to load config file: " ++ error.message),
        .plain ("Config file location: " ++ location)], machine.files⟩
    | .ok config =>
      let effect := execute machine config invocation
      match effect.result with
      | .ok output => ⟨0, output, effect.notices, effect.files⟩
      | .error error => ⟨1, [], effect.notices ++ [.error error.report], effect.files⟩

end DiagramEditor.CommandLine

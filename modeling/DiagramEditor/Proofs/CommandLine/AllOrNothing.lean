import DiagramEditor.Proofs.CommandLine.Stages

/-! What a run leaves where it fails, and where it does not. Every check comes before the first
call that a user could see: the output is begun when nothing can fail any more, and a file that
is formatted in place is replaced at once. -/
namespace DiagramEditor.CommandLine

/-- The renderer that is set up leaves the files as it finds them. -/
def Machine.RendersCleanly (machine : Machine) : Prop :=
  ∀ config, Config.loadOrDefault machine.files machine.environment = .ok config → ∀ source,
    (Config.renderCommand config).filesBehind machine.programs machine.files source =
      machine.files

/-- The arguments name a file, whether they are accepted or not. -/
def Names (arguments : List String) (path : Path) : Prop :=
  path ∈ arguments.tail ∧ namesInput path ∧ path ≠ "-"

/-- The arguments ask for a file to be formatted in place. -/
def AsksToWrite (arguments : List String) (path : Path) : Prop :=
  parseArguments arguments = .ok ⟨.format, some path, true⟩

/-- What is true of a run that has ended with a code, an output and some files. -/
structure AllOrNothing (machine : Machine) (arguments : List String) (code : Nat)
    (stdout : Text) (files : FileSystem) : Prop where
  failure : code ≠ 0 → stdout = [] ∧
    ∀ path, Names arguments path → files.stat path = machine.files.stat path
  untouched : (∀ path, ¬AsksToWrite arguments path) → files = machine.files
  accepted : code = 0 → ∃ invocation, parseArguments arguments = .ok invocation
  formatted : code = 0 → ∀ path, AsksToWrite arguments path → stdout = [] ∧
    ∃ options source, AsksToFormat machine arguments options (some path) true source.toUtf8 ∧
      files.readFile path = .ok (formatSource options source).toUtf8

/-- The moments of a run. Each knows what was found out before, and up to the output nothing is
written. -/
inductive Course (machine : Machine) (arguments : List String) : Moment → Prop where
  | starting : Course machine arguments machine.start
  | loading {invocation} : parseArguments arguments = .ok invocation →
    Course machine arguments ⟨machine.files, [], .loading invocation⟩
  | called {invocation config} : parseArguments arguments = .ok invocation →
    Config.loadOrDefault machine.files machine.environment = .ok config →
    Course machine arguments ⟨machine.files, [], .called invocation config⟩
  | reading {invocation config} : parseArguments arguments = .ok invocation →
    Config.loadOrDefault machine.files machine.environment = .ok config →
    invocation.write = false →
    Course machine arguments ⟨machine.files, [], .reading invocation config⟩
  | handling {invocation config bytes} : parseArguments arguments = .ok invocation →
    Config.loadOrDefault machine.files machine.environment = .ok config →
    invocation.write = false →
    Course machine arguments ⟨machine.files, [], .handling invocation config bytes⟩
  | rewriting {files path stage config options} : AsksToWrite arguments path →
    Config.loadOrDefault machine.files machine.environment = .ok config →
    config.formatOptions = .ok options →
    SourceFile.Reaches path ⟨machine.files, .reading options⟩ ⟨files, stage⟩ →
    Course machine arguments ⟨files, [], .rewriting path stage⟩
  | printing {invocation stdout left} : parseArguments arguments = .ok invocation →
    invocation.write = false →
    Course machine arguments ⟨machine.files, stdout, .printing left⟩
  | failed : Course machine arguments ⟨machine.files, [], .finished 1⟩
  | printed {invocation stdout} : parseArguments arguments = .ok invocation →
    invocation.write = false →
    Course machine arguments ⟨machine.files, stdout, .finished 0⟩
  | rewriteFailed {files path} : AsksToWrite arguments path →
    files.stat path = machine.files.stat path →
    Course machine arguments ⟨files, [], .finished 1⟩
  | rewritten {files path options source} :
    AsksToFormat machine arguments options (some path) true source.toUtf8 →
    files.readFile path = .ok (formatSource options source).toUtf8 →
    Course machine arguments ⟨files, [], .finished 0⟩

variable {machine : Machine} {arguments : List String} {invocation : Invocation} {path : Path}
  {moment next : Moment} {files : FileSystem} {stdout : Text} {code : Nat}

theorem Course.step (clean : machine.RendersCleanly) (course : Course machine arguments moment)
    (step : Step machine arguments moment next) : Course machine arguments next := by
  cases course with
  | starting =>
    cases step with
    | parse parsed => exact .loading parsed
    | refuse => exact .failed
  | loading parsed =>
    cases step with
    | load loaded => exact .called parsed loaded
    | loadFails => exact .failed
  | called parsed loaded =>
    cases step with
    | optionsFail => exact .failed
    | rewrite valid => exact .rewriting parsed loaded valid .refl
    | openInput silent => exact .reading parsed loaded silent
  | reading parsed loaded silent =>
    cases step with
    | read => exact .handling parsed loaded silent
    | readFails => exact .failed
    | stdinFails => exact .failed
  | handling parsed loaded silent =>
    cases step with
    | format => exact .printing parsed silent
    | highlight => exact .printing parsed silent
    | render =>
      rw [clean _ loaded]
      exact .printing parsed silent
    | renderFails =>
      rw [clean _ loaded]
      exact .failed
    | formatFails => exact .failed
    | notText => exact .failed
    | themeFails => exact .failed
    | sessionFails => exact .failed
    | timesOut => exact .failed
  | rewriting asks loaded valid reached =>
    cases step with
    | rewriteOn step => exact .rewriting asks loaded valid (reached.tail step)
    | rewritten =>
      obtain ⟨_, ⟨bytes, formatted, held, formats, rfl⟩, holds⟩ :=
        SourceFile.isFormatted_of_reaches reached
      obtain ⟨source, rfl, rfl⟩ := formatBytes_eq_ok.mp formats
      exact .rewritten ⟨asks, ⟨_, loaded, valid⟩, .file held⟩ holds
    | rewriteFails =>
      cases (SourceFile.Formatting.run reached).whole with
      | old _ same => exact .rewriteFailed asks same
  | printing parsed silent =>
    cases step with
    | print => exact .printing parsed silent
    | printed => exact .printed parsed silent
  | failed => cases step
  | printed => cases step
  | rewriteFailed => cases step
  | rewritten => cases step

theorem Course.run (clean : machine.RendersCleanly)
    (reached : Reaches machine arguments machine.start moment) :
    Course machine arguments moment := by
  induction reached with
  | refl => exact .starting
  | tail _ step ih => exact ih.step clean step

theorem file?_of_names (parsed : parseArguments arguments = .ok invocation)
    (named : Names arguments path) : invocation.file? = some path := by
  cases arguments with
  | nil => cases parsed
  | cons name rest =>
    obtain ⟨-, -, single, -, file, -⟩ := parseArguments_eq_ok.mp parsed
    rw [file]
    exact (fileOf_eq_some single).mpr named

theorem not_asksToWrite (parsed : parseArguments arguments = .ok invocation)
    (silent : invocation.write = false) : ¬AsksToWrite arguments path := by
  intro asks
  cases parsed.symm.trans asks
  cases silent

theorem Course.allOrNothing (course : Course machine arguments ⟨files, stdout, .finished code⟩) :
    AllOrNothing machine arguments code stdout files := by
  cases course with
  | failed => exact ⟨fun _ => ⟨rfl, fun _ _ => rfl⟩, fun _ => rfl, nofun, nofun⟩
  | printed parsed silent =>
    exact ⟨absurd rfl, fun _ => rfl, fun _ => ⟨_, parsed⟩,
      fun _ _ asks => absurd asks (not_asksToWrite parsed silent)⟩
  | rewriteFailed asks same =>
    refine ⟨fun _ => ⟨rfl, fun path named => ?_⟩, fun never => absurd asks (never _), nofun, nofun⟩
    cases file?_of_names asks named
    exact same
  | rewritten asks holds =>
    refine ⟨absurd rfl, fun never => absurd asks.parsed (never _), fun _ => ⟨_, asks.parsed⟩,
      fun _ path asks' => ⟨rfl, ?_⟩⟩
    cases asks.parsed.symm.trans asks'
    exact ⟨_, _, asks, holds⟩

/-- A run that fails has written nothing and left the named file alone. One that succeeds has
changed no file, or has written nothing but the formatted text of the file to be formatted. -/
theorem run_allOrNothing (machine : Machine) (program : String) (arguments : List String)
    (clean : machine.RendersCleanly) :
    (∀ files stdout code,
      Reaches machine arguments machine.start ⟨files, stdout, .finished code⟩ →
        AllOrNothing machine arguments code stdout files) ∧
    Reaches machine arguments machine.start (run machine program arguments).moment ∧
    AllOrNothing machine arguments (run machine program arguments).exitCode
      (run machine program arguments).stdout (run machine program arguments).files :=
  ⟨fun _ _ _ reached => (Course.run clean reached).allOrNothing,
    reaches_run machine program arguments,
    (Course.run clean (reaches_run machine program arguments)).allOrNothing⟩

/-- A machine with a file to be formatted, and a renderer that gives up in the middle of its
output. -/
def halting : Machine where
  files := { entries := [(["f"], .file (Text.toUtf8 " graph TD".toList))] }
  environment := ⟨[], "/root"⟩
  stdin := []
  programs := fun _ _ _ => .ok { status := .exited 3, stdout := Text.toUtf8 "<svg>".toList }

theorem run_allOrNothing_of_halting :
    halting.RendersCleanly ∧
      ((run halting "editor" ["render", "f"]).exitCode = 1 ∧
        (run halting "editor" ["render", "f"]).stdout = [] ∧
        (run halting "editor" ["render", "f"]).files.stat "f" = halting.files.stat "f") ∧
      (run halting "editor" ["format", "f", "-w"]).exitCode = 0 ∧
        (run halting "editor" ["format", "f", "-w"]).stdout = [] ∧
        ∃ options source,
          AsksToFormat halting ["format", "f", "-w"] options (some "f") true source.toUtf8 ∧
          (run halting "editor" ["format", "f", "-w"]).files.readFile "f" =
            .ok (formatSource options source).toUtf8 := by
  have clean : halting.RendersCleanly := fun _ _ _ => rfl
  have fails : (run halting "editor" ["render", "f"]).exitCode = 1 := by decide +kernel
  have succeeds : (run halting "editor" ["format", "f", "-w"]).exitCode = 0 := by decide +kernel
  obtain ⟨-, -, rendering⟩ := run_allOrNothing halting "editor" ["render", "f"] clean
  obtain ⟨-, -, formatting⟩ := run_allOrNothing halting "editor" ["format", "f", "-w"] clean
  obtain ⟨silent, same⟩ := rendering.failure (fails ▸ Nat.one_ne_zero)
  exact ⟨clean, ⟨fails, silent, same "f" ⟨by decide, by decide, by decide⟩⟩, succeeds,
    formatting.formatted succeeds "f" rfl⟩

end DiagramEditor.CommandLine

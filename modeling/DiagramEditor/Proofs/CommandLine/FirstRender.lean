import DiagramEditor.Proofs.CommandLine.AllOrNothing
import DiagramEditor.Proofs.Session.Provenance

/-! The first render of a session, and what the command line makes of it. As long as nothing
else is submitted, that render is all that the worker owes, and its ticket is the newest. So
the first outcome is that of its result, which the session then shows, and the command line
always finds the markup or the error that it looks for. -/
namespace DiagramEditor

namespace Session

variable {render : Renderer} {session behind : Session} {source : Text}

/-- The outcome tells what a result is, and the session shows it: its markup or its error. -/
inductive Reports (session : Session) : RenderOutcome → Except RenderError Text → Prop where
  | applied {svg : Text} : session.svg? = some svg → session.Reports .applied (.ok svg)
  | failed {error : RenderError} : session.lastError? = some error.message →
    session.Reports .failed (.error error)

theorem exists_wait? (arrived : session.worker.results ≠ []) :
    ∃ outcome behind, session.wait? = some (outcome, behind) := by
  obtain ⟨document, options, queue, debouncer, jobs, stage, results⟩ := session
  cases results with
  | nil => exact absurd rfl arrived
  | cons done more => exact ⟨_, _, rfl⟩

/-- The result of the newest request, made for `source`, is all that the worker owes. -/
def AwaitsOnly (render : Renderer) (source : Text) (session : Session) : Prop :=
  session.worker.owed render = [⟨⟨session.queue.latestIssued⟩, render source⟩]

theorem awaitsOnly_start (render : Renderer) (source : Text) (debounce : Nat)
    (options : FormatOptions) : AwaitsOnly render source (start source debounce options) := rfl

namespace AwaitsOnly

theorem work (holds : AwaitsOnly render source session) :
    AwaitsOnly render source (session.workerStep render) := by
  cases step : session.worker.step? render with
  | none => simpa only [workerStep, step, Option.getD_none] using holds
  | some worker =>
    simp only [AwaitsOnly, workerStep, step, Option.getD_some]
    rcases RenderWorker.owed_step step with same | ⟨front, old, newer, more, whole, -⟩
    · exact same.trans holds
    · -- Only a newer result makes the worker drop one, and there is none.
      have single := congrArg List.length (whole.symm.trans holds)
      simp only [List.length_append, List.length_cons, List.length_nil] at single
      omega

/-- What submits nothing and folds nothing in leaves the render to be awaited. -/
theorem after {event : SessionEvent} (holds : AwaitsOnly render source session)
    (silent : ∀ now, .tick now ≠ event) (nothing : session.folds event = []) :
    AwaitsOnly render source (session.after render event) := by
  cases event with
  | edit range inserted now => exact holds
  | format now => exact holds
  | tick now => exact absurd rfl (silent now)
  | poll =>
    have empty : session.worker.results = [] := by
      rw [← (folds_poll session).2, nothing, List.map_nil]
    rw [(poll_eq_waits render session).1, waits, empty]
    exact holds
  | wait =>
    rcases session.wait_cases with ⟨-, -, same⟩ | ⟨done, more, -, one, -⟩
    · rwa [same]
    · rw [one] at nothing
      cases nothing
  | work => exact holds.work

theorem run {events : List SessionEvent} (holds : AwaitsOnly render source session)
    (silent : ∀ now, .tick now ∉ events) (nothing : session.folded render events = []) :
    AwaitsOnly render source (session.run render events) := by
  induction events generalizing session with
  | nil => exact holds
  | cons event more ih =>
    simp only [List.mem_cons, not_or, forall_and] at silent
    obtain ⟨first, later⟩ := List.append_eq_nil_iff.mp nothing
    exact ih (holds.after silent.1 first) silent.2 later

theorem reports {outcome : RenderOutcome} (holds : AwaitsOnly render source session)
    (waited : session.wait? = some (outcome, behind)) :
    behind.Reports outcome (render source) := by
  obtain ⟨done, worker, received, rfl, rfl⟩ := wait?_eq_some waited
  have owed := (RenderWorker.owed_receive received).symm.trans holds
  obtain ⟨rfl, -⟩ := List.cons.inj owed
  simp only [RenderQueue.complete_eq, if_true]
  cases render source with
  | ok svg => exact .applied rfl
  | error error => exact .failed rfl

end AwaitsOnly

end Session

namespace CommandLine

section FirstRender

open Session

variable (render : Renderer) (source : Text) (debounce : Nat) (options : FormatOptions)

theorem folded_work (session : Session) (steps : Nat) :
    session.folded render (List.replicate steps .work) = [] := by
  induction steps generalizing session with
  | zero => rfl
  | succ steps ih => exact ih _

/-- The worker of the session becomes the given one by steps of its own. -/
def WorksUpTo (session : Session) (worker : RenderWorker) : Prop :=
  ∃ steps, { session with worker := worker } = session.run render (List.replicate steps .work)

variable {render} in
theorem WorksUpTo.step {session : Session} {before after : RenderWorker}
    (reached : WorksUpTo render session before) (step : before.step? render = some after) :
    WorksUpTo render session after := by
  obtain ⟨steps, reached⟩ := reached
  refine ⟨steps + 1, ?_⟩
  rw [List.replicate_succ', run_concat, ← reached, Session.after, workerStep, step,
    Option.getD_some]

/-- The wait for the first render comes after some steps of the worker. -/
theorem exists_firstRender (session : Session) :
    ∃ steps, firstRender render session =
      (session.run render (List.replicate steps .work)).wait? := by
  have settled : WorksUpTo render session (session.worker.settle render) :=
    RenderWorker.settle_keeps ⟨0, rfl⟩ fun _ _ => .step
  have released : WorksUpTo render session ((session.worker.settle render).release render) :=
    RenderWorker.release_keeps settled fun _ _ => .step
  obtain ⟨steps, reached⟩ := released
  exact ⟨steps, congrArg Session.wait? reached⟩

theorem firstRender_start :
    ∃ outcome behind, firstRender render (.start source debounce options) =
      some (outcome, behind) ∧ behind.Reports outcome (render source) := by
  have holds := awaitsOnly_start render source debounce options
  have owes : (start source debounce options).worker.owed render ≠ [] := by
    rw [holds]
    exact List.cons_ne_nil _ _
  obtain ⟨outcome, behind, waited⟩ : ∃ outcome behind,
      firstRender render (.start source debounce options) = some (outcome, behind) :=
    exists_wait? (RenderWorker.results_release_settle owes)
  obtain ⟨steps, same⟩ := exists_firstRender render (.start source debounce options)
  have silent : ∀ now, .tick now ∉ List.replicate steps SessionEvent.work := by simp
  have reached := holds.run silent (folded_work render _ steps)
  exact ⟨outcome, behind, waited, reached.reports (same.symm.trans waited)⟩

/-- What the command line makes of the answer of a renderer: a result, and its log. -/
def conclude : Except RenderError Text → Except RunError Text × List Notice
  | .ok svg => (.ok (svg ++ ['\n']), [])
  | .error error =>
    (.error (.renderFailed error.message),
      [.error ("Failed to render diagram: " ++ error.message)])

theorem renderSource_eq :
    renderSource render debounce options source = conclude (render source) := by
  obtain ⟨outcome, behind, waited, reports⟩ := firstRender_start render source debounce options
  rw [renderSource, waited]
  generalize render source = answer at reports
  cases reports with
  | applied shown => simp only [shown, conclude]
  | failed recorded => simp only [recorded, Option.getD_some, if_true, conclude]

end FirstRender

section Messages

/-- What the command line would say without markup, and without an error. -/
def fallbacks : List String := ["Renderer produced no output", "Render failed: unknown error"]

/-- The text begins otherwise than the texts of a list. -/
def Differs (texts : List String) (text : String) : Prop :=
  ∃ front rest : String, text = front ++ rest ∧ ∀ other ∈ texts, ¬front.toList <+: other.toList

variable {texts : List String} {text : String}

theorem Differs.append (differs : Differs texts text) (more : String) :
    Differs texts (text ++ more) := by
  obtain ⟨front, rest, rfl, apart⟩ := differs
  exact ⟨front, rest ++ more, String.append_assoc, apart⟩

theorem Differs.not_mem (differs : Differs texts text) : text ∉ texts := by
  obtain ⟨front, rest, rfl, apart⟩ := differs
  intro listed
  apply apart _ listed
  rw [String.toList_append]
  exact List.prefix_append _ _

theorem Differs.chain (differs : Differs texts text) (causes : List String) :
    Differs texts (": ".intercalate (text :: causes)) := by
  cases causes with
  | nil => rwa [String.intercalate_singleton]
  | cons cause more =>
    rw [String.intercalate_cons_cons]
    exact (differs.append _).append _

theorem message_ne_unknown (error : RenderError) : error.message ≠ "unknown error" := by
  have differs : Differs ["unknown error"] error.message := by
    cases error with
    | spawn program source =>
      exact .append (.append ⟨"Failed to start renderer '", program, rfl, by decide⟩ _) _
    | failed status stderr =>
      exact .append (.append ⟨"Renderer exited with ", status.message, rfl, by decide⟩ _) _
    | notSvg => exact ⟨"Renderer output is not SVG markup", "", rfl, by decide⟩
    | invalidUtf8 error =>
      exact ⟨"Renderer output is not valid UTF-8: ", error.message, rfl, by decide⟩
    | transfer error => exact ⟨"Renderer IO error: ", error.message, rfl, by decide⟩
    | rejected reason => exact ⟨"Diagram rejected: ", reason, rfl, by decide⟩
    | workerGone => exact ⟨"Render worker has shut down", "", rfl, by decide⟩
  intro same
  exact differs.not_mem (List.mem_singleton.mpr same)

theorem format_differs (error : FormatError) : Differs fallbacks error.message := by
  cases error with
  | invalidIndentSize size =>
    exact .append (.append
      ⟨"Indent size must be between 1 and ", toString maxIndentSize, rfl, by decide⟩ _) _
  | invalidUtf8 error => exact ⟨"Source is not valid UTF-8: ", error.message, rfl, by decide⟩

theorem file_differs (error : SourceFileError) : Differs fallbacks error.message := by
  cases error with
  | notFound path => exact ⟨"File not found: ", path, rfl, by decide⟩
  | access error => exact ⟨"IO error: ", error.message, rfl, by decide⟩
  | format path error => exact .append (.append ⟨"Cannot format ", path, rfl, by decide⟩ _) _

theorem config_differs (error : ConfigError) : Differs fallbacks error.message := by
  cases error with
  | unreadable path error =>
    exact .append (.append ⟨"Failed to read config file at ", path, rfl, by decide⟩ _) _
  | malformed path => exact ⟨"Failed to parse config file at ", path, rfl, by decide⟩
  | invalidColor tag error =>
    exact .append (.append ⟨"Invalid theme colour for ", tag, rfl, by decide⟩ _) _

/-- The errors of a render that has neither markup nor an error to show. -/
inductive RunError.IsFallback : RunError → Prop where
  | withoutOutput : IsFallback .renderWithoutOutput
  | unknown : IsFallback (.renderFailed "unknown error")

theorem isFallback_renderFailed {reason : String} :
    (RunError.renderFailed reason).IsFallback ↔ reason = "unknown error" :=
  ⟨fun | .unknown => rfl, fun same => same ▸ .unknown⟩

theorem isFallback_of_report {error : RunError} (told : error.report ∈ fallbacks) :
    error.IsFallback := by
  cases error with
  | format error => exact absurd told ((format_differs error).chain _).not_mem
  | file error => exact absurd told ((file_differs error).chain _).not_mem
  | config error => exact absurd told ((config_differs error).chain _).not_mem
  | inputNotText error =>
    have differs : Differs fallbacks "Input is not valid UTF-8" :=
      ⟨"Input is not valid UTF-8", "", rfl, by decide⟩
    exact absurd told (differs.chain [error.message]).not_mem
  | renderFailed reason =>
    have report : (RunError.renderFailed reason).report = "Render failed: " ++ reason :=
      String.intercalate_singleton
    rw [report] at told
    -- The two fallbacks begin alike, so here the first one has to be ruled out by itself.
    have differs : Differs ["Renderer produced no output"] ("Render failed: " ++ reason) :=
      ⟨_, reason, rfl, by decide⟩
    rcases List.mem_cons.mp told with produced | failed
    · exact absurd (List.mem_singleton.mpr produced) differs.not_mem
    · have same : "Render failed: " ++ reason = "Render failed: " ++ "unknown error" :=
        List.mem_singleton.mp failed
      exact isFallback_renderFailed.mpr ((String.append_right_inj _).mp same)
  | renderWithoutOutput => exact .withoutOutput
  | renderUnfinished => exact absurd told (by decide)

end Messages

section Runs

variable {machine : Machine} {config : Config} {file? : Option Path} {source : Text}
  {error : RunError}

theorem exists_of_mapError {α ε ε' : Type} {result : Except ε α} {f : ε → ε'} {error : ε'}
    (failed : result.mapError f = .error error) : ∃ cause, error = f cause := by
  cases result with
  | ok value => cases failed
  | error cause => exact ⟨cause, (Except.error.inj failed).symm⟩

/-- A command has not ended with a fallback and has logged none. -/
structure Effect.Spares (effect : Effect) : Prop where
  result : ∀ error, effect.result = .error error → ¬error.IsFallback
  notices : ∀ text, .error text ∈ effect.notices → text ∉ fallbacks

theorem Effect.spares_of_silent {result : Except RunError Text} {files : FileSystem}
    (own : ∀ error, result = .error error → ¬error.IsFallback) :
    Effect.Spares ⟨result, [], files⟩ :=
  ⟨own, fun _ listed => absurd listed List.not_mem_nil⟩

theorem Effect.spares_of_error {files : FileSystem} (own : ¬error.IsFallback) :
    Effect.Spares ⟨.error error, [], files⟩ := by
  apply Effect.spares_of_silent
  rintro _ ⟨⟩
  exact own

theorem readInput_spares (failed : readInput machine file? = .error error) :
    ¬error.IsFallback := by
  cases file? with
  | none => cases failed
  | some path =>
    obtain ⟨cause, rfl⟩ := exists_of_mapError failed
    rintro ⟨⟩

theorem readText_spares (failed : readText machine file? = .error error) :
    ¬error.IsFallback := by
  rw [readText] at failed
  cases input : readInput machine file? with
  | error cause =>
    rw [input] at failed
    cases failed
    exact readInput_spares input
  | ok bytes =>
    rw [input] at failed
    obtain ⟨cause, rfl⟩ := exists_of_mapError failed
    rintro ⟨⟩

theorem formatToOutput_spares {options : FormatOptions}
    (failed : formatToOutput machine options file? = .error error) : ¬error.IsFallback := by
  rw [formatToOutput] at failed
  cases input : readInput machine file? with
  | error cause =>
    rw [input] at failed
    cases failed
    exact readInput_spares input
  | ok bytes =>
    rw [input] at failed
    dsimp only at failed
    cases formats : formatBytes options bytes with
    | error cause =>
      rw [formats] at failed
      cases failed
      rintro ⟨⟩
    | ok formatted =>
      rw [formats] at failed
      cases failed

theorem highlight_spares (failed : highlight machine config file? = .error error) :
    ¬error.IsFallback := by
  rw [highlight] at failed
  cases read : readText machine file? with
  | error cause =>
    rw [read] at failed
    cases failed
    exact readText_spares read
  | ok source =>
    rw [read] at failed
    dsimp only at failed
    cases themed : config.highlightTheme with
    | error cause =>
      rw [themed] at failed
      cases failed
      rintro ⟨⟩
    | ok theme =>
      rw [themed] at failed
      cases failed

theorem formatInPlace_spares (machine : Machine) (options : FormatOptions) (path : Path) :
    (formatInPlace machine options path).Spares := by
  rw [formatInPlace]
  cases SourceFile.format machine.files path options with
  | mk result files =>
    cases result with
    | error error =>
      refine ⟨?_, ?_⟩
      · rintro _ ⟨⟩
        rintro ⟨⟩
      · intro text listed
        cases error with
        | notFound path => cases listed
        | access error => cases listed
        | format path cause =>
          cases List.mem_singleton.mp listed
          have differs : Differs fallbacks s!"Failed to format {path}: {cause.message}" :=
            .append (.append ⟨"Failed to format ", path, rfl, by decide⟩ _) _
          exact differs.not_mem
    | ok changed =>
      refine ⟨fun _ failed => (by cases failed), ?_⟩
      intro text listed
      cases List.mem_singleton.mp listed

theorem format_spares (machine : Machine) (config : Config) (invocation : Invocation) :
    (format machine config invocation).Spares := by
  obtain ⟨command, file?, write⟩ := invocation
  rw [format]
  cases config.formatOptions with
  | error error => exact Effect.spares_of_error (by rintro ⟨⟩)
  | ok options =>
    have shown (file? : Option Path) :
        Effect.Spares ⟨formatToOutput machine options file?, [], machine.files⟩ :=
      Effect.spares_of_silent fun _ => formatToOutput_spares
    cases write with
    | false => exact shown file?
    | true =>
      cases file? with
      | none => exact shown none
      | some path => exact formatInPlace_spares machine options path

theorem conclude_spares (answer : Except RenderError Text) (files : FileSystem) :
    Effect.Spares ⟨(conclude answer).1, (conclude answer).2, files⟩ := by
  cases answer with
  | ok svg => exact Effect.spares_of_silent fun _ failed => by cases failed
  | error error =>
    refine ⟨?_, ?_⟩
    · rintro _ ⟨⟩ fallback
      exact message_ne_unknown error (isFallback_renderFailed.mp fallback)
    · intro text listed
      cases List.mem_singleton.mp listed
      have differs : Differs fallbacks ("Failed to render diagram: " ++ error.message) :=
        ⟨_, error.message, rfl, by decide⟩
      exact differs.not_mem

theorem render_spares (machine : Machine) (config : Config) (file? : Option Path) :
    (render machine config file?).Spares := by
  rw [render]
  cases read : readText machine file? with
  | error error => exact Effect.spares_of_error (readText_spares read)
  | ok source =>
    dsimp only
    cases config.formatOptions with
    | error error => exact Effect.spares_of_error (by rintro ⟨⟩)
    | ok options =>
      dsimp only
      rw [renderSource_eq]
      exact conclude_spares _ _

theorem execute_spares (machine : Machine) (config : Config) (invocation : Invocation) :
    (execute machine config invocation).Spares := by
  obtain ⟨command, file?, write⟩ := invocation
  cases command with
  | format => exact format_spares machine config _
  | highlight => exact Effect.spares_of_silent fun _ => highlight_spares
  | render => exact render_spares machine config file?

theorem run_spares (machine : Machine) (program : String) (arguments : List String) :
    ∀ text, .error text ∈ (run machine program arguments).notices → text ∉ fallbacks := by
  intro text listed
  cases parsed : parseArguments arguments with
  | error error => simp [run, parsed] at listed
  | ok invocation =>
    cases loaded : Config.loadOrDefault machine.files machine.environment with
    | error error => simp [run, parsed, loaded] at listed
    | ok config =>
      have spares := execute_spares machine config invocation
      cases result : (execute machine config invocation).result with
      | ok output =>
        rw [run_of_ok parsed loaded result] at listed
        exact spares.notices text listed
      | error error =>
        rw [run_of_error parsed loaded result] at listed
        rcases List.mem_append.mp listed with logged | reported
        · exact spares.notices text logged
        · cases List.mem_singleton.mp reported
          exact fun told => spares.result error result (isFallback_of_report told)

theorem result_render {options : FormatOptions} (read : readText machine file? = .ok source)
    (valid : config.formatOptions = .ok options) :
    (render machine config file?).result =
      (conclude (Config.renderer machine.programs config source)).1 := by
  simp only [render, read, valid, renderSource_eq]

end Runs

/-- The first outcome of a session is that of its first render, and the session then shows the
markup or the error. So the command line ends with what the renderer gave, be it markup or an
error, and never says that there was neither. -/
theorem render_never_falls_back (render : Renderer) (source : Text) (debounce : Nat)
    (options : FormatOptions) :
    (∀ events, (∀ now, .tick now ∉ events) →
      (Session.start source debounce options).folded render events = [] →
      ∀ outcome behind,
        ((Session.start source debounce options).run render events).wait? =
          some (outcome, behind) →
        behind.Reports outcome (render source)) ∧
    renderSource render debounce options source = conclude (render source) ∧
    (∀ machine config file?, readText machine file? = .ok source →
      config.formatOptions = .ok options →
      (CommandLine.render machine config file?).result =
        (conclude (Config.renderer machine.programs config source)).1) ∧
    ∀ machine program arguments text,
      .error text ∈ (run machine program arguments).notices → text ∉ fallbacks := by
  refine ⟨?_, renderSource_eq render source debounce options, ?_, run_spares⟩
  · intro events silent nothing outcome behind waited
    exact ((Session.awaitsOnly_start render source debounce options).run silent nothing).reports
      waited
  · intro machine config file? read valid
    exact result_render read valid

/-- A session that has been waited for in vain and edited before its render is done, and a
renderer that gives up. -/
theorem render_never_falls_back_of_halting :
    let source := " graph TD".toList
    let events : List SessionEvent :=
      [.work, .wait, .edit ⟨1, 1⟩ ['!'] 0, .work, .work, .poll, .work]
    let session := (Session.start source 3 .standard).run (Session.refusing '!') events
    let reason := "Renderer exited with exit status: 3: "
    let told := "Render failed: Renderer exited with exit status: 3: "
    (∀ now, .tick now ∉ events) ∧
      (Session.start source 3 .standard).folded (Session.refusing '!') events = [] ∧
      (∃ behind, session.wait? = some (.applied, behind) ∧ behind.svg? = some source) ∧
      readText halting (some "f") = .ok source ∧ Config.formatOptions {} = .ok .standard ∧
      (render halting {} (some "f")).result = .error (.renderFailed reason) ∧
      .error told ∈ (run halting "editor" ["render", "f"]).notices ∧ told ∉ fallbacks := by
  intro source events session reason told
  have silent : ∀ now, .tick now ∉ events := by simp [events]
  have nothing : (Session.start source 3 .standard).folded (Session.refusing '!') events = [] :=
    rfl
  have read : readText halting (some "f") = .ok source := by decide +kernel
  have valid : Config.formatOptions {} = .ok .standard := rfl
  have logged : .error told ∈ (run halting "editor" ["render", "f"]).notices := by decide +kernel
  have answer : Config.renderer halting.programs {} source =
      .error (.failed (.exited 3) []) := by decide +kernel
  obtain ⟨behind, waited⟩ : ∃ behind, session.wait? = some (.applied, behind) := ⟨_, rfl⟩
  obtain ⟨first, -, ends, spared⟩ :=
    render_never_falls_back (Session.refusing '!') source 3 .standard
  have reports : behind.Reports .applied (.ok source) := first events silent nothing _ _ waited
  have result := ends halting {} (some "f") read valid
  rw [answer] at result
  cases reports with
  | applied shown =>
    exact ⟨silent, nothing, ⟨behind, waited, shown⟩, read, valid, result, logged,
      spared _ _ _ _ logged⟩

end CommandLine
end DiagramEditor

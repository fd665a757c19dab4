import DiagramEditor.Proofs.CommandLine.Format
import DiagramEditor.Proofs.Document.Splice

/-! The ways to have a source formatted. Bytes are read as the source that they encode, or
refused if they encode none; a document, a session, a file and a run of the command line then
come to the same text. What is formatted in place holds that text afterwards, so another
formatting finds nothing to do. -/
namespace DiagramEditor

namespace Document

variable {document : Document} {options : FormatOptions}

theorem text_format (document : Document) (options : FormatOptions) :
    (document.format options).1.text = formatSource options document.text :=
  text_replaceAll document _

theorem isNoop_format :
    (document.format options).2.isNoop ↔ formatSource options document.text = document.text :=
  isNoop_replaceAll

theorem format_format (document : Document) (options : FormatOptions) :
    (document.format options).1.format options =
      ((document.format options).1, (document.format options).1.unchanged) := by
  have fixed : formatSource options (document.format options).1.text =
      (document.format options).1.text := by
    rw [text_format]
    exact formatSource_congr (contentLines_formatSource options document.text)
  rw [format, fixed, replaceAll_self]

end Document

namespace Session

theorem format_format (session : Session) (now later : Nat) :
    (session.format now).2.format later =
      ((session.format now).2.document.unchanged, (session.format now).2) := by
  have again : (session.format now).2.document.format (session.format now).2.options =
      ((session.format now).2.document, (session.format now).2.document.unchanged) :=
    session.document.format_format session.options
  rw [format, again]
  rfl

end Session

/-- Bytes that encode a source, on every way from them to a text. In place, a formatting tells
whether the text is a new one, and the next one finds nothing to do. -/
structure FormattedAlike (options : FormatOptions) (bytes : Bytes) (source formatted : Text) :
    Prop where
  reading : formatBytes options bytes = .ok formatted
  opening : (Document.ofBytes bytes).map Document.text = .ok source
  document : ∀ document : Document, document.text = source →
    (document.format options).1.text = formatted ∧
      ((document.format options).2.isNoop ↔ formatted = source) ∧
      (document.format options).1.format options =
        ((document.format options).1, (document.format options).1.unchanged)
  session : ∀ (session : Session) (now later : Nat), session.document.text = source →
    session.options = options →
    (session.format now).2.document.text = formatted ∧
      ((session.format now).1.isNoop ↔ formatted = source) ∧
      (session.format now).2.format later =
        ((session.format now).2.document.unchanged, (session.format now).2)
  /-- The file counts only if it can be written where it has to be. -/
  file : ∀ (fs : FileSystem) (path : Path), fs.readFile path = .ok bytes →
    (formatted ≠ source → (SourceFile.replace fs path formatted.toUtf8).1 = .ok ()) →
    ∃ behind, SourceFile.format fs path options = (.ok (decide (formatted ≠ source)), behind) ∧
      behind.readFile path = .ok formatted.toUtf8 ∧
      SourceFile.format behind path options = (.ok false, behind)
  output : ∀ (machine : CommandLine.Machine) (program : String) (arguments : List String)
    (file? : Option Path),
    CommandLine.AsksToFormat machine arguments options file? false bytes →
    CommandLine.run machine program arguments =
      ⟨0, formatted ++ ['\n'], [], machine.files⟩
  write : ∀ (machine : CommandLine.Machine) (program : String) (arguments : List String)
    (path : Path),
    CommandLine.AsksToFormat machine arguments options (some path) true bytes →
    (formatted ≠ source →
      (SourceFile.replace machine.files path formatted.toUtf8).1 = .ok ()) →
    ∃ notices behind, CommandLine.run machine program arguments = ⟨0, [], notices, behind⟩ ∧
      behind.readFile path = .ok formatted.toUtf8

/-- Bytes that encode nothing, on every way that begins with them: each reports the same place
where they go wrong, and no file is any other than before. -/
structure RefusedAlike (options : FormatOptions) (bytes : Bytes) (error : Utf8.DecodeError) :
    Prop where
  reading : formatBytes options bytes = .error (.invalidUtf8 error)
  opening : Document.ofBytes bytes = .error error
  file : ∀ (fs : FileSystem) (path : Path), fs.readFile path = .ok bytes →
    SourceFile.format fs path options = (.error (.format path (.invalidUtf8 error)), fs)
  output : ∀ (machine : CommandLine.Machine) (program : String) (arguments : List String)
    (file? : Option Path) (write : Bool),
    CommandLine.AsksToFormat machine arguments options file? write bytes →
    ∃ notices, CommandLine.run machine program arguments = ⟨1, [], notices, machine.files⟩

/-- Whatever the bytes are, all ways to have them formatted agree: on the formatted source if
they encode one, and otherwise on the error. -/
theorem formatted_or_refused_alike (options : FormatOptions) (bytes : Bytes) :
    (∀ source, bytes = source.toUtf8 →
      FormattedAlike options bytes source (formatSource options source)) ∧
    ((∀ source : Text, bytes ≠ source.toUtf8) → ∃ error, RefusedAlike options bytes error) := by
  refine ⟨?_, ?_⟩
  · rintro source rfl
    exact {
      reading := formatBytes_toUtf8 options source
      opening := by
        rw [Document.ofBytes, Utf8.decode_eq_ok_iff.mpr rfl]
        rfl
      document := by
        rintro document rfl
        exact ⟨document.text_format options, Document.isNoop_format,
          document.format_format options⟩
      session := by
        rintro session now later rfl rfl
        exact ⟨session.document.text_format session.options, Document.isNoop_format,
          session.format_format now later⟩
      file := fun _ _ held writable => SourceFile.format_of_writable held writable
      output := fun _ _ _ _ asks => CommandLine.run_format asks
      write := by
        intro machine program arguments path asks writable
        obtain ⟨behind, formats, holds, -⟩ :=
          SourceFile.format_of_writable asks.given.readFile writable
        obtain ⟨notices, did⟩ := CommandLine.run_format_write asks formats
        exact ⟨notices, behind, did, holds⟩ }
  · intro unencoded
    obtain ⟨error, refused⟩ := Utf8.exists_decode_eq_error unencoded
    exact ⟨error, {
      reading := formatBytes_of_decode_eq_error refused
      opening := by
        rw [Document.ofBytes, refused]
        rfl
      file := fun _ _ held => SourceFile.format_of_decode_eq_error held refused
      output := fun _ _ _ _ _ asks => CommandLine.run_format_of_decode_eq_error asks refused }⟩

/-- A block with carriage returns in a file, and a byte that begins no character on the way in. -/
theorem formatted_or_refused_alike_of_crlf :
    let source : Text := "group\r\n x ".toList
    let formatted : Text := "group\n  x".toList
    let fs : FileSystem := { entries := [(["d"], .file source.toUtf8)] }
    let machine : CommandLine.Machine :=
      ⟨fs, { bindings := [] }, [0xFF], fun _ _ _ => .error .permissionDenied⟩
    fs.readFile "d" = .ok source.toUtf8 ∧
      (SourceFile.replace fs "d" formatted.toUtf8).1 = .ok () ∧
      (∃ behind, SourceFile.format fs "d" .standard = (.ok true, behind) ∧
        behind.readFile "d" = .ok formatted.toUtf8 ∧
        SourceFile.format behind "d" .standard = (.ok false, behind)) ∧
      ¬((Document.ofText source).format .standard).2.isNoop ∧
      CommandLine.AsksToFormat machine ["format", "d"] .standard (some "d") false
        source.toUtf8 ∧
      CommandLine.run machine "editor" ["format", "d"] = ⟨0, formatted ++ ['\n'], [], fs⟩ ∧
      CommandLine.AsksToFormat machine ["format"] .standard none false [0xFF] ∧
      ∃ notices, CommandLine.run machine "editor" ["format"] = ⟨1, [], notices, fs⟩ := by
  intro source formatted fs machine
  have result : formatSource .standard source = formatted := by decide
  have different : formatted ≠ source := by decide
  obtain ⟨alike, -⟩ := formatted_or_refused_alike .standard source.toUtf8
  have alike : FormattedAlike .standard source.toUtf8 source formatted :=
    result ▸ alike source rfl
  obtain ⟨-, refused⟩ := formatted_or_refused_alike .standard [0xFF]
  have unencoded : ∀ other : Text, [0xFF] ≠ other.toUtf8 := by
    intro other same
    have reads := Utf8.decode_eq_ok_iff.mpr same
    rw [Utf8.decode, Utf8.decodeFrom] at reads
    cases reads
  obtain ⟨error, refused⟩ := refused unencoded
  have held : fs.readFile "d" = .ok source.toUtf8 := rfl
  have writable : (SourceFile.replace fs "d" formatted.toUtf8).1 = .ok () := rfl
  have settings : Config.defaultPath { bindings := [] } =
      "/root/.config/mermaid-editor/config.toml" := by rfl
  have configured : Config.loadOrDefault fs { bindings := [] } = .ok {} := by
    rw [Config.loadOrDefault, Config.load, settings]
    rfl
  have asks : CommandLine.AsksToFormat machine ["format", "d"] .standard (some "d") false
      source.toUtf8 := ⟨rfl, ⟨{}, configured, rfl⟩, .file held⟩
  have asks' : CommandLine.AsksToFormat machine ["format"] .standard none false [0xFF] :=
    ⟨rfl, ⟨{}, configured, rfl⟩, .stdin⟩
  have did := alike.file fs "d" held fun _ => writable
  have done := (alike.document (.ofText source) rfl).2.1
  have printed := alike.output machine "editor" ["format", "d"] (some "d") asks
  have failed := refused.output machine "editor" ["format"] none false asks'
  refine ⟨held, writable, ?_, ?_, asks, printed, asks', failed⟩
  · obtain ⟨behind, formats, holds⟩ := did
    exact ⟨behind, formats, holds⟩
  · rw [done]
    exact different

end DiagramEditor

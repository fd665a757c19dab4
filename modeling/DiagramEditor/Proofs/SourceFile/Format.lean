import DiagramEditor.Proofs.Format.Content
import DiagramEditor.Proofs.Host.FileSystem
import DiagramEditor.Proofs.Text.Utf8
import DiagramEditor.SourceFile

/-! Formatting a file in place. A file is read back as it was written, so behind a successful
run it holds the formatted text; one that held this text already is not written at all. -/
namespace DiagramEditor

variable {options : FormatOptions} {bytes : Bytes} {source : Text} {error : Utf8.DecodeError}

theorem formatBytes_toUtf8 (options : FormatOptions) (source : Text) :
    formatBytes options source.toUtf8 = .ok (formatSource options source) := by
  rw [formatBytes, Utf8.decode_eq_ok_iff.mpr rfl]

theorem formatBytes_of_decode_eq_error (refused : Utf8.decode bytes = .error error) :
    formatBytes options bytes = .error (.invalidUtf8 error) := by
  rw [formatBytes, refused]

theorem formatBytes_eq_ok {formatted : Text} :
    formatBytes options bytes = .ok formatted ↔
      ∃ source : Text, bytes = source.toUtf8 ∧ formatSource options source = formatted := by
  rw [formatBytes]
  cases decoded : Utf8.decode bytes with
  | error error =>
    have notText (source : Text) : bytes ≠ source.toUtf8 := by
      rintro rfl
      rw [Utf8.decode_eq_ok_iff.mpr rfl] at decoded
      cases decoded
    simp [notText]
  | ok source =>
    obtain rfl := Utf8.decode_eq_ok_iff.mp decoded
    simp [Utf8.toUtf8_injective.eq_iff]

namespace SourceFile

variable {fs replaced : FileSystem} {path : Path} {content : Bytes}

theorem read_eq_ok : read fs path = .ok content ↔ fs.readFile path = .ok content := by
  rw [read, FileSystem.pathExists, FileSystem.readFile]
  cases found : fs.stat path with
  | error error => constructor <;> intro same <;> cases same
  | ok entry =>
    cases entry with
    | file held => constructor <;> intro same <;> cases same <;> rfl
    | directory => constructor <;> intro same <;> cases same

theorem readFile_replace (success : replace fs path content = (.ok (), replaced)) :
    replaced.readFile path = .ok content := by
  unfold replace at success
  cases writing : fs.writeFile (temporary path) content with
  | error failure =>
    rw [writing] at success
    cases success
  | ok written =>
    rw [writing] at success
    dsimp only at success
    cases moving : written.renameFile (temporary path) path with
    | error error =>
      rw [moving] at success
      cases success
    | ok moved =>
      rw [moving] at success
      obtain rfl : moved = replaced := (Prod.mk.inj success).2
      obtain ⟨location, place, rfl⟩ := FileSystem.filePlace_of_writeFile writing
      exact FileSystem.readFile_eq_ok.mpr (FileSystem.stat_renameFile (place.put content)
        (FileSystem.lookup?_put_self place.ne_nil) moving)

theorem format_of_fixed (held : fs.readFile path = .ok source.toUtf8)
    (fixed : formatSource options source = source) : format fs path options = (.ok false, fs) := by
  simp only [format, read_eq_ok.mpr held, formatBytes_toUtf8, fixed, if_true]

theorem format_of_not_fixed (held : fs.readFile path = .ok source.toUtf8)
    (unfixed : formatSource options source ≠ source)
    (success : replace fs path (formatSource options source).toUtf8 = (.ok (), replaced)) :
    format fs path options = (.ok true, replaced) := by
  have different : (formatSource options source).toUtf8 ≠ source.toUtf8 :=
    fun same => unfixed (Utf8.toUtf8_injective same)
  simp only [format, read_eq_ok.mpr held, formatBytes_toUtf8, different, if_false, success]

/-- A file that can be written where it has to be holds the formatted text afterwards, and is
then left alone. -/
theorem format_of_writable (held : fs.readFile path = .ok source.toUtf8)
    (writable : formatSource options source ≠ source →
      (replace fs path (formatSource options source).toUtf8).1 = .ok ()) :
    ∃ behind,
      format fs path options = (.ok (decide (formatSource options source ≠ source)), behind) ∧
        behind.readFile path = .ok (formatSource options source).toUtf8 ∧
        format behind path options = (.ok false, behind) := by
  by_cases fixed : formatSource options source = source
  · have alone := format_of_fixed held fixed
    refine ⟨fs, ?_, fixed.symm ▸ held, alone⟩
    rw [alone, decide_eq_false (not_not_intro fixed)]
  · obtain ⟨behind, replaces⟩ :
        ∃ behind, replace fs path (formatSource options source).toUtf8 = (.ok (), behind) :=
      ⟨_, Prod.ext (writable fixed) rfl⟩
    have holds := readFile_replace replaces
    have again : formatSource options (formatSource options source) =
        formatSource options source :=
      formatSource_congr (contentLines_formatSource options source)
    refine ⟨behind, ?_, holds, format_of_fixed holds again⟩
    rw [format_of_not_fixed held fixed replaces, decide_eq_true fixed]

theorem format_of_decode_eq_error (held : fs.readFile path = .ok bytes)
    (refused : Utf8.decode bytes = .error error) :
    format fs path options = (.error (.format path (.invalidUtf8 error)), fs) := by
  simp only [format, read_eq_ok.mpr held, formatBytes_of_decode_eq_error refused]

end SourceFile
end DiagramEditor

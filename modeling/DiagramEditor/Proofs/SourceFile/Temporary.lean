import DiagramEditor.Proofs.Host.Sibling
import DiagramEditor.SourceFile

/-! The temporary file of a replacement. It stands beside the file, never in its place or on the
way to it; so what happens at its place is not seen through the path. -/
namespace DiagramEditor.SourceFile

open FileSystem (FilePlace)

variable {fs : FileSystem} {path : Path} {content : Bytes} {location : Location}

theorem slash_not_mem_fileName {name : String} (named : path.fileName? = some name) :
    '/' ∉ name.toList := by
  obtain ⟨tail, outer, turned, -⟩ := Path.fileName?_eq_some.mp named
  have listed : name ∈ path.names := by
    rw [← List.mem_reverse, turned]
    simp
  exact Path.slash_not_mem listed

theorem isSibling_temporary (path : Path) :
    path.IsSibling (temporary path) (path.fileName?.getD "" ++ ".tmp") := by
  apply Path.isSibling_withFileName
  · cases named : path.fileName? with
    | none => decide
    | some name => simpa using slash_not_mem_fileName named
  · cases named : path.fileName? with
    | none => exact nofun
    | some name =>
      intro same
      have longer := congrArg String.length (Option.some.inj same)
      simp at longer

/-- Where no file stands at the path of the temporary file, there is nothing to be lost. -/
theorem erase_of_stat (place : fs.FilePlace (temporary path) location)
    (absent : ∀ held, fs.stat (temporary path) ≠ .ok (.file held)) : fs.erase location = fs := by
  apply FileSystem.erase_of_lookup?_eq_none
  cases holds : fs.lookup? location with
  | none => rfl
  | some entry =>
    cases entry with
    | file held => exact absurd (place.stat holds) (absent held)
    | directory => exact absurd holds place.noDirectory

theorem stat_put_temporary {entry : Entry} (place : fs.FilePlace (temporary path) location) :
    (fs.put location entry).stat path = fs.stat path :=
  FileSystem.stat_of_isSibling (isSibling_temporary path) place FileSystem.erase_put

theorem stat_erase_temporary (place : fs.FilePlace (temporary path) location) :
    (fs.erase location).stat path = fs.stat path :=
  FileSystem.stat_of_isSibling (isSibling_temporary path) place FileSystem.erase_erase

/-- The temporary file is moved away from its own place, never onto itself. -/
theorem filePlace_of_renameFile {moved : FileSystem}
    (place : fs.FilePlace (temporary path) location)
    (moving : (fs.put location (.file content)).renameFile (temporary path) path = .ok moved) :
    ∃ target, fs.FilePlace path target ∧ target ≠ location ∧
      moved = (fs.erase location).put target (.file content) := by
  obtain ⟨origin, target, held, origin', there, holds, rfl⟩ := FileSystem.renameFile_eq_ok moving
  obtain rfl : location = origin := (place.put content).unique origin'
  obtain rfl : content = held := by
    rw [FileSystem.lookup?_put_self place.ne_nil] at holds
    injections
  have written : (fs.put location (.file content)).erase location = fs.erase location :=
    FileSystem.erase_put
  obtain ⟨alike, elsewhere⟩ :=
    FileSystem.locate_of_isSibling (isSibling_temporary path) place written
  have apart : target ≠ location := by
    rintro rfl
    exact elsewhere (alike.symm.trans there.locate)
  have kept := FileSystem.keepsDirectories_of_erase_eq written.symm (place.put content).noDirectory
  have noDirectory := there.noDirectory
  rw [FileSystem.lookup?_put_of_ne apart] at noDirectory
  refine ⟨target, there.of_keepsDirectories kept noDirectory, apart, ?_⟩
  rw [if_neg apart.symm, written]

end DiagramEditor.SourceFile

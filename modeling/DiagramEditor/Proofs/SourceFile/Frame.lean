import DiagramEditor.Proofs.SourceFile.Stages

/-! What a replacement leaves of everything beside the file. The path of the temporary file is used
without a look at what stands there, so a file there is lost. Everywhere else the files are
afterwards as they were, whichever calls have failed. -/
namespace DiagramEditor.SourceFile

variable {fs behind : FileSystem} {path : Path} {content : Bytes} {scratch target : Location}

theorem lookup?_of_erase_temporary (place : fs.FilePlace (temporary path) scratch)
    (same : behind.erase scratch = fs.erase scratch) :
    ∀ other, fs.locate (temporary path) ≠ .ok other → behind.lookup? other = fs.lookup? other := by
  intro other elsewhere
  have apart : other ≠ scratch := by
    rintro rfl
    exact elsewhere place.locate
  exact FileSystem.lookup?_of_erase_eq same apart

theorem frame_of_moved (place : fs.FilePlace (temporary path) scratch)
    (there : fs.FilePlace path target) (apart : target ≠ scratch)
    (moved : behind = (fs.erase scratch).put target (.file content)) :
    ((∀ held, fs.stat (temporary path) ≠ .ok (.file held)) →
      ∃ target, fs.locate path = .ok target ∧
        ∀ other ≠ target, behind.lookup? other = fs.lookup? other) ∧
    ∀ held, fs.stat (temporary path) = .ok (.file held) →
      ∃ scratch target, fs.locate (temporary path) = .ok scratch ∧
        fs.locate path = .ok target ∧ target ≠ scratch ∧ behind.lookup? scratch = none ∧
        ∀ other, other ≠ target → other ≠ scratch →
          behind.lookup? other = fs.lookup? other := by
  subst moved
  refine ⟨fun absent => ⟨target, there.locate, fun other notTarget => ?_⟩, fun held stands =>
    ⟨scratch, target, place.locate, there.locate, apart, ?_, fun other notTarget notScratch => ?_⟩⟩
  · rw [FileSystem.lookup?_put_of_ne notTarget, erase_of_stat place absent]
  · rw [FileSystem.lookup?_put_of_ne apart.symm, FileSystem.lookup?_erase_self place.ne_nil]
  · rw [FileSystem.lookup?_put_of_ne notTarget, FileSystem.lookup?_erase_of_ne notScratch]

theorem frame_of_removed (place : fs.FilePlace (temporary path) scratch)
    (removed : behind = fs.erase scratch) :
    ((∀ held, fs.stat (temporary path) ≠ .ok (.file held)) → behind = fs) ∧
    ∀ held, fs.stat (temporary path) = .ok (.file held) →
      ∃ scratch, fs.locate (temporary path) = .ok scratch ∧ behind = fs.erase scratch :=
  ⟨fun absent => removed.trans (erase_of_stat place absent),
    fun _ _ => ⟨scratch, place.locate, removed⟩⟩

/-- Where no file stands at the path of the temporary file, a replacement that succeeds changes
only the replaced file; a file that stands there is lost, and nothing else. One that fails changes
nothing elsewhere. It changes nothing at all if the temporary file could not be opened, and
loses at most what stood there if the temporary file was removed again. -/
theorem replace_frame {before : Moment} {result : Except SourceFileError Bool}
    (reached : Reaches path ⟨fs, .opening content⟩ before)
    (ends : Step path before ⟨behind, .finished result⟩) :
    (result = .ok true →
      ((∀ held, fs.stat (temporary path) ≠ .ok (.file held)) →
        ∃ target, fs.locate path = .ok target ∧
          ∀ other ≠ target, behind.lookup? other = fs.lookup? other) ∧
      ∀ held, fs.stat (temporary path) = .ok (.file held) →
        ∃ scratch target, fs.locate (temporary path) = .ok scratch ∧
          fs.locate path = .ok target ∧ target ≠ scratch ∧ behind.lookup? scratch = none ∧
          ∀ other, other ≠ target → other ≠ scratch →
            behind.lookup? other = fs.lookup? other) ∧
    (result ≠ .ok true →
      (∀ other, fs.locate (temporary path) ≠ .ok other →
        behind.lookup? other = fs.lookup? other) ∧
      (before.stage = .opening content → behind = fs) ∧
      (before.files.removeFile (temporary path) = .ok behind →
        ((∀ held, fs.stat (temporary path) ≠ .ok (.file held)) → behind = fs) ∧
        ∀ held, fs.stat (temporary path) = .ok (.file held) →
          ∃ scratch, fs.locate (temporary path) = .ok scratch ∧ behind = fs.erase scratch)) := by
  cases Underway.run reached with
  | opening =>
    cases ends with
    | createFails =>
      refine ⟨nofun, fun _ => ⟨fun _ _ => rfl, fun _ => rfl, fun removes => ?_⟩⟩
      obtain ⟨scratch, place, -, removed⟩ := FileSystem.removeFile_eq_ok.mp removes
      exact frame_of_removed place removed
  | writing place cut =>
    cases ends with
    | writeFails =>
      refine ⟨nofun, fun _ => ⟨?_, nofun, fun removes => ?_⟩⟩
      · exact lookup?_of_erase_temporary place FileSystem.erase_put
      · exact frame_of_removed place (place.removeFile_put removes)
  | moving place =>
    cases ends with
    | move success =>
      obtain ⟨target, there, apart, moved⟩ := filePlace_of_renameFile place success
      exact ⟨fun _ => frame_of_moved place there apart moved, absurd rfl⟩
  | removing place =>
    cases ends with
    | remove success =>
      obtain rfl := place.removeFile_put success
      refine ⟨nofun, fun _ => ⟨?_, nofun, fun _ => frame_of_removed place rfl⟩⟩
      exact lookup?_of_erase_temporary place FileSystem.erase_erase
    | removeFails =>
      refine ⟨nofun, fun _ => ⟨?_, nofun, fun removes => ?_⟩⟩
      · exact lookup?_of_erase_temporary place FileSystem.erase_put
      · exact frame_of_removed place (place.removeFile_put removes)
  | unopened => cases ends
  | abandoned => cases ends
  | removed => cases ends
  | replaced => cases ends

/-- What is left of the two files once the first one is replaced. -/
def uncrowded : FileSystem where
  entries := [(["f"], .file (Text.toUtf8 "new".toList))]

theorem replace_frame_of_crowded :
    Reaches "f" ⟨crowded, .opening (Text.toUtf8 "new".toList)⟩
        ⟨crowded.put ["f.tmp"] (.file (Text.toUtf8 "new".toList)), .moving⟩ ∧
      Step "f" ⟨crowded.put ["f.tmp"] (.file (Text.toUtf8 "new".toList)), .moving⟩
        ⟨uncrowded, .finished (.ok true)⟩ ∧
      crowded.stat (temporary "f") = .ok (.file (Text.toUtf8 "keep".toList)) ∧
      ∃ scratch, crowded.locate (temporary "f") = .ok scratch ∧
        uncrowded.lookup? scratch = none := by
  have created : crowded.create (temporary "f") =
      .ok (["f.tmp"], crowded.put ["f.tmp"] (.file [])) := rfl
  have write : Step "f"
      ⟨crowded.put ["f.tmp"] (.file []), .writing ["f.tmp"] (Text.toUtf8 "new".toList)⟩
      ⟨crowded.put ["f.tmp"] (.file (Text.toUtf8 "new".toList)), .writing ["f.tmp"] []⟩ :=
    @Step.write "f" (crowded.put ["f.tmp"] (.file [])) ["f.tmp"] (Text.toUtf8 "new".toList) []
  have reached := ((Relation.ReflTransGen.single (Step.create created)).tail write).tail .close
  have moved : (crowded.put ["f.tmp"] (.file (Text.toUtf8 "new".toList))).renameFile
      (temporary "f") "f" = .ok uncrowded := rfl
  have stands : crowded.stat (temporary "f") = .ok (.file (Text.toUtf8 "keep".toList)) := rfl
  obtain ⟨-, crowding⟩ := (replace_frame reached (.move moved)).1 rfl
  obtain ⟨scratch, target, leads, -, -, lost, -⟩ := crowding _ stands
  exact ⟨reached, .move moved, stands, scratch, leads, lost⟩

/-- Not everything beside a file is safe when that file is replaced. -/
theorem not_forall_replace_frame : ¬ ∀ (fs : FileSystem) (path : Path) (content : Bytes),
    ((replace fs path content).1 = .ok () → ∃ target, fs.locate path = .ok target ∧
      ∀ other ≠ target, (replace fs path content).2.lookup? other = fs.lookup? other) ∧
    ((replace fs path content).1 ≠ .ok () → (replace fs path content).2 = fs) := by
  intro safe
  obtain ⟨target, leads, same⟩ := (safe crowded "f" (Text.toUtf8 "new".toList)).1 rfl
  have there : crowded.locate "f" = .ok ["f"] := rfl
  obtain rfl : ["f"] = target := Except.ok.inj (there.symm.trans leads)
  have kept := same ["f.tmp"] (by decide)
  have lost : (replace crowded "f" (Text.toUtf8 "new".toList)).2.lookup? ["f.tmp"] = none := rfl
  have stood : crowded.lookup? ["f.tmp"] = some (.file (Text.toUtf8 "keep".toList)) := rfl
  rw [lost, stood] at kept
  cases kept

end DiagramEditor.SourceFile

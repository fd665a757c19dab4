import DiagramEditor.Proofs.SourceFile.Format
import DiagramEditor.Proofs.SourceFile.Temporary
import DiagramEditor.SourceFile.Stages

/-! What another program finds at a path while the file there is replaced. Up to the move only
the temporary file changes, and that is not seen through the path; the move brings all of the
content at once. -/
namespace DiagramEditor.SourceFile

variable {fs : FileSystem} {path : Path} {content : Bytes} {moment next : Moment}
  {options : FormatOptions}

/-- The moments of a replacement, with what is in the files then. -/
inductive Underway (fs : FileSystem) (path : Path) (content : Bytes) : Moment → Prop where
  | opening : Underway fs path content ⟨fs, .opening content⟩
  | unopened {error} : Underway fs path content ⟨fs, .finished (.error error)⟩
  | writing {location done left} : fs.FilePlace (temporary path) location →
    done ++ left = content →
    Underway fs path content ⟨fs.put location (.file done), .writing location left⟩
  | moving {location} : fs.FilePlace (temporary path) location →
    Underway fs path content ⟨fs.put location (.file content), .moving⟩
  | removing {location error} : fs.FilePlace (temporary path) location →
    Underway fs path content ⟨fs.put location (.file content), .removing error⟩
  /-- The temporary file could not be written, or not be removed. -/
  | abandoned {location held error} : fs.FilePlace (temporary path) location →
    Underway fs path content ⟨fs.put location (.file held), .finished (.error error)⟩
  | removed {location error} : fs.FilePlace (temporary path) location →
    Underway fs path content ⟨fs.erase location, .finished (.error error)⟩
  | replaced {location target} : fs.FilePlace (temporary path) location →
    fs.FilePlace path target → target ≠ location →
    Underway fs path content
      ⟨(fs.erase location).put target (.file content), .finished (.ok true)⟩

theorem Underway.step (underway : Underway fs path content moment)
    (step : Step path moment next) : Underway fs path content next := by
  cases underway with
  | opening =>
    cases step with
    | create success =>
      obtain ⟨place, rfl⟩ := FileSystem.create_eq_ok.mp success
      exact .writing place (List.nil_append _)
    | createFails => exact .unopened
  | writing place cut =>
    cases step with
    | write =>
      rw [FileSystem.append_put place.ne_nil]
      exact .writing place (by rw [List.append_assoc, cut])
    | writeFails => exact .abandoned place
    | close =>
      rw [List.append_nil] at cut
      exact cut ▸ .moving place
  | moving place =>
    cases step with
    | move success =>
      obtain ⟨target, there, apart, rfl⟩ := filePlace_of_renameFile place success
      exact .replaced place there apart
    | moveFails => exact .removing place
  | removing place =>
    cases step with
    | remove success =>
      obtain rfl := place.removeFile_put success
      exact .removed place
    | removeFails => exact .abandoned place
  | unopened => cases step
  | abandoned => cases step
  | removed => cases step
  | replaced => cases step

theorem Underway.run (reached : Reaches path ⟨fs, .opening content⟩ moment) :
    Underway fs path content moment := by
  induction reached with
  | refl => exact .opening
  | tail _ step ih => exact ih.step step

/-- A replacement that ends with success leaves the new content. -/
theorem Underway.stat {files : FileSystem} {changed : Bool}
    (underway : Underway fs path content ⟨files, .finished (.ok changed)⟩) :
    files.stat path = .ok (.file content) := by
  cases underway with
  | replaced place there apart => exact FileSystem.stat_put_erase place there apart.symm

theorem Underway.whole (underway : Underway fs path content moment) :
    Whole fs path (· = content) moment := by
  cases underway with
  | opening => exact .old nofun rfl
  | unopened => exact .old nofun rfl
  | writing place cut => exact .old nofun (stat_put_temporary place)
  | moving place => exact .old nofun (stat_put_temporary place)
  | removing place => exact .old nofun (stat_put_temporary place)
  | abandoned place => exact .old nofun (stat_put_temporary place)
  | removed place => exact .old nofun (stat_erase_temporary place)
  | replaced place there apart =>
    exact .new rfl (FileSystem.stat_put_erase place there apart.symm)

theorem Whole.imp {new new' : Bytes → Prop} (whole : Whole fs path new moment)
    (implies : ∀ content, new content → new' content) : Whole fs path new' moment := by
  cases whole with
  | old unfinished same => exact .old unfinished same
  | new intended holds => exact .new (implies _ intended) holds

/-- The moments at which a file is read and formatted, and those at which it is then replaced. -/
inductive Formatting (fs : FileSystem) (path : Path) (options : FormatOptions) : Moment → Prop where
  | reading : Formatting fs path options ⟨fs, .reading options⟩
  | left {result} : result ≠ .ok true → Formatting fs path options ⟨fs, .finished result⟩
  | underway {new : Bytes} {behind : Moment} : IsFormatted fs path options new →
    Underway fs path new behind → Formatting fs path options behind

theorem Formatting.step (formatting : Formatting fs path options moment)
    (step : Step path moment next) : Formatting fs path options next := by
  cases formatting with
  | reading =>
    cases step with
    | readFails => exact .left nofun
    | readAborts => exact .left nofun
    | formatFails => exact .left nofun
    | keep => exact .left nofun
    | change reading formats =>
      exact .underway ⟨_, _, read_eq_ok.mp reading, formats, rfl⟩ .opening
  | left => cases step
  | underway intended underway => exact .underway intended (underway.step step)

theorem Formatting.run (reached : Reaches path ⟨fs, .reading options⟩ moment) :
    Formatting fs path options moment := by
  induction reached with
  | refl => exact .reading
  | tail _ step ih => exact ih.step step

theorem Formatting.whole (formatting : Formatting fs path options moment) :
    Whole fs path (IsFormatted fs path options) moment := by
  cases formatting with
  | reading => exact .old nofun rfl
  | left unchanged => exact .old (fun same => unchanged (Stage.finished.inj same)) rfl
  | underway intended underway => exact underway.whole.imp fun _ same => same ▸ intended

theorem eq_of_reaches_finished {result : Except SourceFileError Bool}
    (reached : Reaches path ⟨fs, .finished result⟩ moment) : ⟨fs, .finished result⟩ = moment := by
  rcases Relation.ReflTransGen.cases_head reached with same | ⟨_, step, -⟩
  · exact same
  · cases step

/-- A file that was formatted with success holds the formatted text, whether it had to be
replaced or not. -/
theorem isFormatted_of_reaches {files : FileSystem} {changed : Bool}
    (reached : Reaches path ⟨fs, .reading options⟩ ⟨files, .finished (.ok changed)⟩) :
    ∃ content, IsFormatted fs path options content ∧ files.readFile path = .ok content := by
  rcases Relation.ReflTransGen.cases_head reached with same | ⟨next, step, rest⟩
  · cases same
  · cases step with
    | readFails failure => cases eq_of_reaches_finished rest
    | readAborts => cases eq_of_reaches_finished rest
    | formatFails held failure => cases eq_of_reaches_finished rest
    | keep reading formats same =>
      cases eq_of_reaches_finished rest
      have held := read_eq_ok.mp reading
      exact ⟨_, ⟨_, _, held, formats, same⟩, held⟩
    | change reading formats different =>
      exact ⟨_, ⟨_, _, read_eq_ok.mp reading, formats, rfl⟩,
        FileSystem.readFile_eq_ok.mpr (Underway.run rest).stat⟩

/-- Writing in one go is writing piece by piece, until the file is whole or until that fails. -/
theorem reaches_writeFile (fs : FileSystem) (path : Path) (content : Bytes) :
    Reaches path ⟨fs, .opening content⟩ (match fs.writeFile (temporary path) content with
      | .ok written => ⟨written, .moving⟩
      | .error (error, left) => ⟨left, .finished (.error (.access error))⟩) := by
  rw [FileSystem.writeFile]
  cases created : fs.create (temporary path) with
  | error error => exact .single .createFails
  | ok opening =>
    obtain ⟨location, opened⟩ := opening
    have first : Reaches path ⟨fs, .opening content⟩ ⟨opened, .writing location content⟩ :=
      .single (.create created)
    dsimp only
    rcases FileSystem.write_cases opened location content with
      through | ⟨piece, left, error, rfl, failed⟩
    · have write : Step path ⟨opened, .writing location content⟩
          ⟨opened.append location content, .writing location []⟩ := by
        simpa only [List.append_nil] using @Step.write path opened location content []
      rw [through]
      exact (first.tail write).tail .close
    · rw [failed]
      exact (first.tail .write).tail .writeFails

/-- The steps end as the replacement in one go does. -/
theorem reaches_replace (fs : FileSystem) (path : Path) (content : Bytes) :
    Reaches path ⟨fs, .opening content⟩
      ⟨(replace fs path content).2, .finished ((replace fs path content).1.map fun _ => true)⟩ := by
  have writes := reaches_writeFile fs path content
  unfold replace
  cases writing : fs.writeFile (temporary path) content with
  | error failure =>
    rw [writing] at writes
    exact writes
  | ok written =>
    rw [writing] at writes
    dsimp only at writes ⊢
    cases moving : written.renameFile (temporary path) path with
    | ok moved => exact writes.tail (.move moving)
    | error error =>
      have failed := writes.tail (@Step.moveFails path written error)
      cases removing : written.removeFile (temporary path) with
      | ok removed => exact failed.tail (.remove removing)
      | error ignored => exact failed.tail .removeFails

theorem reaches_format (fs : FileSystem) (path : Path) (options : FormatOptions) :
    Reaches path ⟨fs, .reading options⟩
      ⟨(format fs path options).2, .finished (format fs path options).1⟩ := by
  unfold format
  cases reading : read fs path with
  | error error => exact .single (.readFails reading)
  | ok bytes =>
    dsimp only
    cases formats : formatBytes options bytes with
    | error error => exact .single (.formatFails reading formats)
    | ok formatted =>
      dsimp only
      by_cases same : formatted.toUtf8 = bytes
      · rw [if_pos same]
        exact .single (.keep reading formats same)
      · rw [if_neg same]
        have replaced :=
          (reaches_replace fs path formatted.toUtf8).head (.change reading formats same)
        cases ran : replace fs path formatted.toUtf8 with
        | mk result behind =>
          rw [ran] at replaced
          cases result with
          | ok => exact replaced
          | error error => exact replaced

theorem isAtomic_of_reaches {start : Stage} {new : Bytes → Prop}
    {result : Except SourceFileError Bool} {behind : FileSystem}
    (throughout : ∀ moment, Reaches path ⟨fs, start⟩ moment → Whole fs path new moment)
    (ends : Reaches path ⟨fs, start⟩ ⟨behind, .finished result⟩)
    (holds : ∀ changed, result = .ok changed →
      ∃ content, new content ∧ behind.stat path = .ok (.file content)) :
    IsAtomic fs path start new result behind := by
  refine ⟨throughout, ends, holds, fun other => ?_⟩
  cases throughout _ ends with
  | old _ same => exact same
  | new => exact absurd rfl other

/-- A file is never seen half written, neither one that is replaced nor one that is formatted. -/
theorem replace_and_format_atomic (fs : FileSystem) (path : Path) (content : Bytes)
    (options : FormatOptions) :
    IsAtomic fs path (.opening content) (· = content)
        ((replace fs path content).1.map fun _ => true) (replace fs path content).2 ∧
      IsAtomic fs path (.reading options) (IsFormatted fs path options)
        (format fs path options).1 (format fs path options).2 := by
  have replaces := reaches_replace fs path content
  have formats := reaches_format fs path options
  constructor
  · refine isAtomic_of_reaches (fun _ reached => (Underway.run reached).whole) replaces ?_
    intro changed success
    rw [success] at replaces
    exact ⟨content, rfl, (Underway.run replaces).stat⟩
  · refine isAtomic_of_reaches (fun _ reached => (Formatting.run reached).whole) formats ?_
    intro changed success
    rw [success] at formats
    obtain ⟨new, intended, held⟩ := isFormatted_of_reaches formats
    exact ⟨new, intended, FileSystem.readFile_eq_ok.mp held⟩

/-- A file, and another one where its temporary file comes to. -/
def crowded : FileSystem where
  entries :=
    [(["f"], .file (Text.toUtf8 "old".toList)), (["f.tmp"], .file (Text.toUtf8 "keep".toList))]

/-- The temporary file holds the first letter of a new content; the path still leads to the old
one. -/
theorem replace_and_format_atomic_of_partly_written :
    Reaches "f" ⟨crowded, .opening (Text.toUtf8 "new".toList)⟩
        ⟨crowded.put ["f.tmp"] (.file (Text.toUtf8 "n".toList)),
          .writing ["f.tmp"] (Text.toUtf8 "ew".toList)⟩ ∧
      (crowded.put ["f.tmp"] (.file (Text.toUtf8 "n".toList))).stat "f" =
        .ok (.file (Text.toUtf8 "old".toList)) := by
  have created : crowded.create (temporary "f") =
      .ok (["f.tmp"], crowded.put ["f.tmp"] (.file [])) := rfl
  have write : Step "f"
      ⟨crowded.put ["f.tmp"] (.file []), .writing ["f.tmp"] (Text.toUtf8 "new".toList)⟩
      ⟨crowded.put ["f.tmp"] (.file (Text.toUtf8 "n".toList)),
        .writing ["f.tmp"] (Text.toUtf8 "ew".toList)⟩ :=
    @Step.write "f" (crowded.put ["f.tmp"] (.file [])) ["f.tmp"] (Text.toUtf8 "n".toList)
      (Text.toUtf8 "ew".toList)
  have reached := (Relation.ReflTransGen.single (Step.create created)).tail write
  obtain ⟨atomic, -⟩ :=
    replace_and_format_atomic crowded "f" (Text.toUtf8 "new".toList) .standard
  refine ⟨reached, ?_⟩
  cases atomic.throughout _ reached with
  | old _ same => exact same.trans rfl

end DiagramEditor.SourceFile

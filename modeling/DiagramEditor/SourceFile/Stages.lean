import Mathlib.Logic.Relation
import DiagramEditor.SourceFile

/-! Replacing a file call by call. Between any two calls another program may look at the files.
The temporary file grows piece by piece; then it is moved or, where that fails, removed. -/
namespace DiagramEditor.SourceFile

/-- What is to be done next. -/
inductive Stage where
  | reading (options : FormatOptions)
  | opening (content : Bytes)
  /-- The temporary file is open; some of the content is left to be written. -/
  | writing (location : Location) (left : Bytes)
  | moving
  | removing (error : OsError)
  /-- Nothing. The result says whether the file was replaced. -/
  | finished (result : Except SourceFileError Bool)
deriving Repr

structure Moment where
  files : FileSystem
  stage : Stage
deriving Repr

/-- One call, or the decision between two calls. A call may also fail for reasons that are not in
the files, for instance on a full disk. It leaves the files as they are then. -/
inductive Step (path : Path) : Moment → Moment → Prop where
  | readFails {files options error} : read files path = .error error →
    Step path ⟨files, .reading options⟩ ⟨files, .finished (.error error)⟩
  | readAborts {files options error} :
    Step path ⟨files, .reading options⟩ ⟨files, .finished (.error (.access error))⟩
  | formatFails {files options bytes error} : read files path = .ok bytes →
    formatBytes options bytes = .error error →
    Step path ⟨files, .reading options⟩ ⟨files, .finished (.error (.format path error))⟩
  | keep {files options bytes formatted} : read files path = .ok bytes →
    formatBytes options bytes = .ok formatted → formatted.toUtf8 = bytes →
    Step path ⟨files, .reading options⟩ ⟨files, .finished (.ok false)⟩
  | change {files options bytes formatted} : read files path = .ok bytes →
    formatBytes options bytes = .ok formatted → formatted.toUtf8 ≠ bytes →
    Step path ⟨files, .reading options⟩ ⟨files, .opening formatted.toUtf8⟩
  | create {files content location opened} :
    files.create (temporary path) = .ok (location, opened) →
    Step path ⟨files, .opening content⟩ ⟨opened, .writing location content⟩
  | createFails {files content error} :
    Step path ⟨files, .opening content⟩ ⟨files, .finished (.error (.access error))⟩
  | write {files location piece left} :
    Step path ⟨files, .writing location (piece ++ left)⟩
      ⟨files.append location piece, .writing location left⟩
  /-- The temporary file is not removed then. -/
  | writeFails {files location left error} :
    Step path ⟨files, .writing location left⟩ ⟨files, .finished (.error (.access error))⟩
  | close {files location} : Step path ⟨files, .writing location []⟩ ⟨files, .moving⟩
  | move {files moved} : files.renameFile (temporary path) path = .ok moved →
    Step path ⟨files, .moving⟩ ⟨moved, .finished (.ok true)⟩
  | moveFails {files error} : Step path ⟨files, .moving⟩ ⟨files, .removing error⟩
  | remove {files removed error} : files.removeFile (temporary path) = .ok removed →
    Step path ⟨files, .removing error⟩ ⟨removed, .finished (.error (.access error))⟩
  /-- Of the two errors the first one is told. -/
  | removeFails {files error} :
    Step path ⟨files, .removing error⟩ ⟨files, .finished (.error (.access error))⟩

/-- Any number of steps. -/
abbrev Reaches (path : Path) : Moment → Moment → Prop := Relation.ReflTransGen (Step path)

/-- At a path stands what stood there in the given files or, once the file is replaced, a file
with all of a new content. -/
inductive Whole (fs : FileSystem) (path : Path) (new : Bytes → Prop) : Moment → Prop where
  | old {files stage} : stage ≠ .finished (.ok true) → files.stat path = fs.stat path →
    Whole fs path new ⟨files, stage⟩
  | new {files content} : new content → files.stat path = .ok (.file content) →
    Whole fs path new ⟨files, .finished (.ok true)⟩

/-- A new content comes to a path all at once or not at all, and the steps can end with the
given result and files. Behind a success the path holds a new content, whether that had to come
there or stood there before. -/
structure IsAtomic (fs : FileSystem) (path : Path) (start : Stage) (new : Bytes → Prop)
    (result : Except SourceFileError Bool) (behind : FileSystem) : Prop where
  throughout : ∀ moment, Reaches path ⟨fs, start⟩ moment → Whole fs path new moment
  ends : Reaches path ⟨fs, start⟩ ⟨behind, .finished result⟩
  holds : ∀ changed, result = .ok changed →
    ∃ content, new content ∧ behind.stat path = .ok (.file content)
  kept : result ≠ .ok true → behind.stat path = fs.stat path

/-- A content is the formatted text of a file. -/
def IsFormatted (fs : FileSystem) (path : Path) (options : FormatOptions) (content : Bytes) :
    Prop :=
  ∃ bytes formatted, fs.readFile path = .ok bytes ∧ formatBytes options bytes = .ok formatted ∧
    formatted.toUtf8 = content

end DiagramEditor.SourceFile

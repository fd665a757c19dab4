import DiagramEditor.Format.Indent
import DiagramEditor.Host.FileSystem

/-! Diagram files. A file is replaced by writing a temporary file beside it and moving
that one into its place, so a reader finds either the old or the new content. When
the move fails, the temporary file is removed; when it cannot be written, it is not. -/
namespace DiagramEditor

inductive SourceFileError where
  | notFound (path : Path)
  | access (error : OsError)
  | format (path : Path) (error : FormatError)
deriving DecidableEq, Repr

def SourceFileError.message : SourceFileError → String
  | notFound path => s!"File not found: {path}"
  | access error => s!"IO error: {error.message}"
  | format path error => s!"Cannot format {path}: {error.message}"

namespace SourceFile

def read (fs : FileSystem) (path : Path) : Except SourceFileError Bytes :=
  if fs.pathExists path then (fs.readFile path).mapError .access
  else .error (.notFound path)

/-- The file that holds the new content until it is moved. -/
def temporary (path : Path) : Path :=
  path.withFileName (path.fileName?.getD "" ++ ".tmp")

/-- Replaces the content of a file in one step. -/
def replace (fs : FileSystem) (path : Path) (content : Bytes) :
    Except SourceFileError Unit × FileSystem :=
  match fs.writeFile (temporary path) content with
  | .error (error, left) => (.error (.access error), left)
  | .ok written =>
    match written.renameFile (temporary path) path with
    | .ok moved => (.ok (), moved)
    | .error error =>
      (.error (.access error), (written.removeFile (temporary path)).toOption.getD written)

/-- Formats a file in place, and says whether that changed it. -/
def format (fs : FileSystem) (path : Path) (options : FormatOptions) :
    Except SourceFileError Bool × FileSystem :=
  match read fs path with
  | .error error => (.error error, fs)
  | .ok content =>
    match formatBytes options content with
    | .error error => (.error (.format path error), fs)
    | .ok formatted =>
      if formatted.toUtf8 = content then (.ok false, fs)
      else
        match replace fs path formatted.toUtf8 with
        | (.ok (), replaced) => (.ok true, replaced)
        | (.error error, left) => (.error error, left)

end SourceFile
end DiagramEditor

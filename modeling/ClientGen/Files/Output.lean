import ClientGen.Code.Artifact
import ClientGen.FilePath
import ClientGen.Files.Access

/-!
# Writing artifacts

The artifacts of a document are written into one directory, in order, and the first fault ends the
writing.  What stands in the place of the directory is not touched.
-/

namespace ClientGen

/-- The failure of output that stands where no directory is. -/
def notDirectory (directory : String) : Failure :=
  { kind := .outputNotDirectory
    message := "Output path exists and is not a directory: " ++ directory }

/-- The problem that a fault of writing into a directory is. -/
def writeProblem (directory : String) : FileFault → Problem
  | .refused message =>
    .failure
      { kind := .writeFailed
        message := "Failed to write generated files to " ++ directory ++ ": " ++ message }
  | fault => .unexpected fault.unexpected

namespace Code

variable {m : Type → Type} [Monad m]

/-- Writes artifacts into a directory that is there: their paths, unless there is a fault. -/
def writeEach (files : FileAccess m) (directory : String) :
    List Artifact → m (Except FileFault (List String))
  | [] => return .ok []
  | artifact :: rest => do
    let path := FilePath.join directory artifact.file
    match ← files.writeText path artifact.content with
    | .error fault => return .error fault
    | .ok () =>
      match ← writeEach files directory rest with
      | .error fault => return .error fault
      | .ok paths => return .ok (path :: paths)

/-- Whether something other than a directory stands at a path. -/
def isBlocked (files : FileAccess m) (directory : String) : m (Except FileFault Bool) := do
  match ← files.isPresent directory with
  | .error fault => return .error fault
  | .ok false => return .ok false
  | .ok true =>
    match ← files.isDirectory directory with
    | .error fault => return .error fault
    | .ok isDirectory => return .ok !isDirectory

/-- Writes artifacts into a directory, which is made if need be: their paths, unless there is a
problem. -/
def writeAll (files : FileAccess m) (directory : String) (artifacts : List Artifact) :
    m (Except Problem (List String)) := do
  match ← isBlocked files directory with
  | .error fault => return .error (.unexpected fault.unexpected)
  | .ok true => return .error (.failure (notDirectory directory))
  | .ok false =>
    match ← files.makeDirectory directory with
    | .error fault => return .error (writeProblem directory fault)
    | .ok () =>
      match ← writeEach files directory artifacts with
      | .error fault => return .error (writeProblem directory fault)
      | .ok paths => return .ok paths

end Code

end ClientGen

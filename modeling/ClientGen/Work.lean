import ClientGen.Extraction
import ClientGen.Files.Input
import ClientGen.Files.Output
import ClientGen.Log
import ClientGen.Settings
import ClientGen.Validation

/-!
# The work on one document

A document goes through the stages in order: it is read, validated and resolved, its API is
extracted, and code is generated and, if a directory is given, written.  The first failure ends the
work, and it names the document.  The log and the URLs that were requested are kept in any case.
-/

namespace ClientGen

/-- What became of the work on a document: the log, what was requested, and the outcome. -/
structure Run (α : Type) where
  logs : List LogRecord
  requests : List String
  outcome : Except Failure α

/-- What the work on a document gives. -/
structure Product where
  path : String
  accepted : Accepted
  resolution : Resolution
  api : Api
  artifacts : List Code.Artifact
  written : List String

/-- The kind of failure that an unexpected fault at a stage is. -/
def Stage.unexpectedKind : Stage → FailureKind
  | .reading => .badSyntax
  | .validation => .schemaViolation
  | .resolution => .fetchFailed
  | .extraction => .extractionFailed
  | .generation => .writeFailed

/-- The failure that a problem at a stage is for a document: one that names a file goes on naming
it. -/
def Stage.failure (stage : Stage) (path : String) : Problem → Failure
  | .failure f => if f.file.isEmpty then f.withFile path else f
  | .unexpected u =>
    { kind := stage.unexpectedKind
      message := "Unexpected error during " ++ stage.name ++ ": " ++ u.message
      file := path }

namespace Run

/-- A run that ends with a problem at a stage. -/
def failed {α : Type} (stage : Stage) (path : String) (problem : Problem) : Run α :=
  ⟨[], [], .error (stage.failure path problem)⟩

/-- A run that has put something on record and goes on with a value. -/
def recorded {α : Type} (logs : List LogRecord) (value : α) : Run α :=
  ⟨logs, [], .ok value⟩

/-- A step without a record. -/
def ofStage {α : Type} (stage : Stage) (path : String) : Except Problem α → Run α
  | .ok value => ⟨[], [], .ok value⟩
  | .error problem => failed stage path problem

/-- Goes on with the value of a run, if it has one. -/
def andThen {α β : Type} (run : Run α) (next : α → Run β) : Run β :=
  match run.outcome with
  | .ok value =>
    let rest := next value
    ⟨run.logs ++ rest.logs, run.requests ++ rest.requests, rest.outcome⟩
  | .error f => ⟨run.logs, run.requests, .error f⟩

instance : Monad Run where
  pure value := ⟨[], [], .ok value⟩
  bind := andThen

end Run

namespace Work

/-- The record of a document that was read. -/
def readRecord (path : String) (document : Document) : LogRecord :=
  ⟨.debug, "Read " ++ path ++ " (" ++ document.format.name ++ ")"⟩

/-- The record of an issue that is tolerated. -/
def issueRecord (path : String) (issue : Issue) : LogRecord :=
  ⟨.warning, path ++ ": tolerated validation issue at " ++ issue.path ++ ": " ++ issue.message⟩

/-- The record of a reference that could not be resolved. -/
def errorRecord (path message : String) : LogRecord :=
  ⟨.warning, path ++ ": " ++ message⟩

/-- The record of the operations that were found. -/
def operationsRecord (path : String) (api : Api) : LogRecord :=
  ⟨.debug, "Extracted " ++ toString api.operations.length ++ " operations from " ++ path⟩

/-- The record of the files that were written. -/
def writtenRecord (directory : String) (written : List String) : LogRecord :=
  ⟨.info, "Wrote " ++ toString written.length ++ " files to " ++ directory⟩

/-- Validates a document. -/
def accept (options : RunOptions) (path : String) (document : Document) : Run Accepted := do
  let validation := validate options.skipValidation document.content
  let accepted ← Run.ofStage .validation path
    ((validation.accept document options.lenientValidation).mapError Problem.failure)
  Run.recorded (accepted.issues.map (issueRecord path)) accepted

/-- Goes on with what a resolution came to; where the document has to be without any references, it
is checked for them. -/
def settle (options : ResolutionOptions) (path : String) (fetched : Net.Fetched Resolution) :
    Run Resolution := do
  let resolution ← match fetched.outcome with
    | .ok resolution => (⟨[], fetched.requests, .ok resolution⟩ : Run Resolution)
    | .error problem => ⟨[], fetched.requests, .error (Stage.resolution.failure path problem)⟩
  if options.external && !options.lenient then
    let _ ← Run.ofStage .resolution path
      ((resolution.check true true).mapError Problem.failure)
  Run.recorded (resolution.errors.map (errorRecord path)) resolution

/-- Extracts the API of a resolved document. -/
def extract (path : String) (resolution : Resolution) : Run Api := do
  let api ← Run.ofStage .extraction path
    ((Api.extract path resolution.resolved).mapError Problem.failure)
  Run.recorded [operationsRecord path api] api

/-- The work on a document that was read, up to its artifacts; `resolve` resolves the references of
its content. -/
def prepareWith (resolve : Value → Net.Fetched Resolution) (options : RunOptions) (path : String)
    (document : Document) : Run Product := do
  let accepted ← accept options path document
  let resolution ← settle options.resolution path (resolve accepted.document.content)
  let api ← extract path resolution
  let artifacts ← Run.ofStage .generation path
    ((Code.artifacts api).mapError Problem.unexpected)
  return ⟨path, accepted, resolution, api, artifacts, []⟩

variable {m : Type → Type} [Monad m]

/-- Reads the document at a path. -/
def read (files : FileAccess m) (path : String) : m (Run Document) := do
  match ← Document.readObject files path with
  | .error problem => return Run.failed .reading path problem
  | .ok document => return Run.recorded [readRecord path document] document

/-- Writes the artifacts of a product, if a directory is given. -/
def write (files : FileAccess m) (options : RunOptions) (product : Product) :
    m (Run Product) := do
  match options.outputDirectory with
  | none => return pure product
  | some directory =>
    match ← Code.writeAll files directory product.artifacts with
    | .error problem => return Run.failed .generation product.path problem
    | .ok written =>
      return Run.recorded [writtenRecord directory written] { product with written }

/-- The work on the document at a path, with a given way to resolve references. -/
def documentWith (resolve : Value → Net.Fetched Resolution) (files : FileAccess m)
    (options : RunOptions) (path : String) : m (Run Product) := do
  let read ← read files path
  let prepared := read >>= prepareWith resolve options path
  match prepared.outcome with
  | .error _ => return prepared
  | .ok product =>
    let written ← write files options product
    return prepared >>= fun _ => written

/-- The work on the document at a path. -/
def document (files : FileAccess m) (fetcher : Net.Fetcher) (options : RunOptions)
    (path : String) : m (Run Product) :=
  documentWith (Resolution.resolve options.resolution fetcher path) files options path

end Work

end ClientGen

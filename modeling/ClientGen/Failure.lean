/-!
# Failures of the stages

A document goes through five stages: reading, validation, resolution, extraction and generation.
Every failure has a kind, each kind belongs to one stage (`FailureKind.stage`), and a failure has
the file it concerns, a message and further details.  The exit code of a failure is that of its
stage.
-/

namespace ClientGen

/-- A stage of the work on one document. -/
inductive Stage where
  | reading
  | validation
  | resolution
  | extraction
  | generation
  deriving Repr, DecidableEq, Inhabited

namespace Stage

/-- The stages in order. -/
def all : List Stage := [reading, validation, resolution, extraction, generation]

/-- The word for a stage. -/
def name : Stage → String
  | reading => "reading"
  | validation => "validation"
  | resolution => "resolution"
  | extraction => "extraction"
  | generation => "generation"

/-- The name of the category that the failures of a stage form. -/
def category : Stage → String
  | reading => "ReadError"
  | validation => "DocumentValidationError"
  | resolution => "ResolutionError"
  | extraction => "ExtractionError"
  | generation => "GenerationError"

/-- The stage whose failures form the category. -/
def ofCategory? (category : String) : Option Stage :=
  all.find? (·.category == category)

/-- The exit code of a run that fails at a stage. -/
def exitCode : Stage → Nat
  | reading => 3
  | validation => 4
  | resolution => 5
  | extraction => 6
  | generation => 7

end Stage

/-- The exit codes that belong to no stage. -/
inductive ExitCode where
  | success
  | generic
  | usage
  deriving Repr, DecidableEq

/-- The number of an exit code. -/
def ExitCode.toNat : ExitCode → Nat
  | success => 0
  | generic => 1
  | usage => 2

/-- The kinds of failures. -/
inductive FailureKind where
  | notFound
  | unsupportedFormat
  | badSyntax
  | invalidStructure
  | missingField
  | wrongType
  | unsupportedVersion
  | schemaViolation
  | unsafeProtocol
  | privateAddress
  | domainNotAllowed
  | networkTimeout
  | fetchFailed
  | resolutionIncomplete
  | circularUnresolved
  | malformedOperation
  | extractionFailed
  | outputNotDirectory
  | writeFailed
  deriving Repr, DecidableEq, Inhabited

namespace FailureKind

/-- Every kind. -/
def all : List FailureKind :=
  [notFound, unsupportedFormat, badSyntax, invalidStructure, missingField, wrongType,
   unsupportedVersion, schemaViolation, unsafeProtocol, privateAddress, domainNotAllowed,
   networkTimeout, fetchFailed, resolutionIncomplete, circularUnresolved, malformedOperation,
   extractionFailed, outputNotDirectory, writeFailed]

/-- The stage at which failures of a kind arise. -/
def stage : FailureKind → Stage
  | notFound | unsupportedFormat | badSyntax | invalidStructure => .reading
  | missingField | wrongType | unsupportedVersion | schemaViolation => .validation
  | unsafeProtocol | privateAddress | domainNotAllowed | networkTimeout | fetchFailed
  | resolutionIncomplete | circularUnresolved => .resolution
  | malformedOperation | extractionFailed => .extraction
  | outputNotDirectory | writeFailed => .generation

/-- The identifier of a kind in machine-readable output. -/
def name : FailureKind → String
  | notFound => "not_found"
  | unsupportedFormat => "unsupported_format"
  | badSyntax => "syntax_error"
  | invalidStructure => "invalid_structure"
  | missingField => "missing_field"
  | wrongType => "wrong_type"
  | unsupportedVersion => "unsupported_version"
  | schemaViolation => "schema_violation"
  | unsafeProtocol => "unsafe_protocol"
  | privateAddress => "private_address"
  | domainNotAllowed => "domain_not_allowed"
  | networkTimeout => "network_timeout"
  | fetchFailed => "fetch_error"
  | resolutionIncomplete => "resolution_incomplete"
  | circularUnresolved => "circular_unresolved"
  | malformedOperation => "malformed_operation"
  | extractionFailed => "extraction_failed"
  | outputNotDirectory => "output_not_directory"
  | writeFailed => "write_failed"

/-- The kind with an identifier. -/
def ofName? (name : String) : Option FailureKind :=
  all.find? (·.name == name)

/-- The label of a kind in reports. -/
def label : FailureKind → String
  | notFound => "File not found"
  | unsupportedFormat => "Unsupported file format"
  | badSyntax => "Syntax error"
  | invalidStructure => "Invalid document structure"
  | missingField => "Missing required field"
  | wrongType => "Wrong field type"
  | unsupportedVersion => "Unsupported OpenAPI version"
  | schemaViolation => "Schema violation"
  | unsafeProtocol => "Unsafe protocol"
  | privateAddress => "Private address blocked"
  | domainNotAllowed => "Domain not allowed"
  | networkTimeout => "Network timeout"
  | fetchFailed => "Fetch failed"
  | resolutionIncomplete => "Unresolved references"
  | circularUnresolved => "Circular references"
  | malformedOperation => "Malformed operation"
  | extractionFailed => "Extraction failed"
  | outputNotDirectory => "Output path is not a directory"
  | writeFailed => "Write failed"

end FailureKind

/-- A failure at some stage; `file` is empty when no file is known. -/
structure Failure where
  kind : FailureKind
  message : String
  file : String := ""
  details : List String := []
  deriving Repr, DecidableEq, Inhabited

namespace Failure

/-- The stage of a failure. -/
def stage (f : Failure) : Stage := f.kind.stage

/-- The exit code of a run that ends with the failure. -/
def exitCode (f : Failure) : Nat := f.stage.exitCode

/-- The same failure, attributed to a file. -/
def withFile (f : Failure) (file : String) : Failure := { f with file }

/-- The file of a failure as it is shown. -/
def shownFile (f : Failure) : String :=
  if f.file.isEmpty then "<unknown>" else f.file

/-- The failure on one line: stage, file and message. -/
def text (f : Failure) : String :=
  "[" ++ f.stage.name ++ "] " ++ f.shownFile ++ ": " ++ f.message

/-- The failure on one line without its file: stage, label and message. -/
def line (f : Failure) : String :=
  "[" ++ f.stage.name ++ "] " ++ f.kind.label ++ ": " ++ f.message

end Failure

/-- The nature of a fault that no stage reports as a failure of its own. -/
inductive FaultNature where
  | value
  | overflow
  | key
  | index
  | attribute
  | type
  | recursion
  | encoding
  | charset
  | ascii
  | assertion
  | runtime
  | input
  | location
  | system
  deriving Repr, DecidableEq, Inhabited

/-- A fault that no stage reports as a failure of its own. -/
structure Unexpected where
  nature : FaultNature
  message : String
  deriving Repr, DecidableEq, Inhabited

/-- How a step may end without a result. -/
inductive Problem where
  | failure (f : Failure)
  | unexpected (u : Unexpected)
  deriving Repr, DecidableEq, Inhabited

/-- Why a failure of some category cannot have some kind: the kind belongs to another stage. -/
structure KindMismatch where
  category : Stage
  kind : FailureKind
  deriving Repr, DecidableEq

/-- The wording of a mismatch. -/
def KindMismatch.message (m : KindMismatch) : String :=
  m.category.category ++ " cannot carry kind '" ++ m.kind.name ++ "' (belongs to stage '" ++
    m.kind.stage.name ++ "')"

/-- A failure of the given category, which has to be that of its kind. -/
def Failure.ofCategory (category : Stage) (f : Failure) : Except KindMismatch Failure :=
  if f.stage = category then .ok f else .error ⟨category, f.kind⟩

/-- The failures of a batch, in the order of its files. -/
structure BatchFailure where
  failures : List Failure
  deriving Repr, DecidableEq

/-- The message of a failed batch: how many files failed, and the first failure. -/
def BatchFailure.message (b : BatchFailure) : String :=
  let count := b.failures.length
  toString count ++ (if count = 1 then " file" else " files") ++ " failed" ++
    match b.failures with
    | [] => ""
    | first :: _ => ": " ++ first.text

/-- The exit code of a failed batch: that of its first failure. -/
def BatchFailure.exitCode (b : BatchFailure) : Nat :=
  match b.failures with
  | [] => ExitCode.generic.toNat
  | first :: _ => first.exitCode

end ClientGen

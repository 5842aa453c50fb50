import ClientGen.Document
import ClientGen.OpenApi.Grammar
import ClientGen.Text.Search

/-!
# Validation of documents

A document is validated in three tiers: its basic structure, its version, and the grammar of
OpenAPI, which is only consulted when the first two find nothing.  Each tier lists its issues.
`Validation.accept` decides whether the later stages get the document: strictly, any issue is fatal;
leniently, issues of the grammar are put on record and the document goes on.
-/

namespace ClientGen

/-- Something that is wrong with a document; the value is null when none is shown. -/
structure Issue where
  path : String
  message : String
  kind : FailureKind
  value : Value

/-- The issue on one line. -/
def Issue.line (issue : Issue) : String :=
  issue.path ++ ": " ++ issue.message

/-- The types that the basic structure asks for. -/
inductive BasicType where
  | object
  | text
  deriving Repr, DecidableEq

namespace BasicType

/-- Whether a value has the type. -/
def accepts : BasicType → Value → Bool
  | object, value => value.isObject
  | text, value => value.str?.isSome

/-- The type with its article. -/
def label : BasicType → String
  | object => "an object"
  | text => "a string"

end BasicType

/-- What is wrong with a field that has to be present and of some type. -/
def fieldIssues (container : Value) (name path : String) (type : BasicType) : List Issue :=
  match (container.field? name).getD .null with
  | .null => [⟨path, "Missing required field '" ++ path ++ "'", .missingField, .null⟩]
  | value =>
    if type.accepts value then []
    else
      [⟨path, "Field '" ++ path ++ "' must be " ++ type.label ++ ", got " ++ value.typeName,
        .wrongType, value⟩]

/-- What is wrong with the title and version of a document. -/
def infoIssues (info : Value) : List Issue :=
  if info.isObject then
    fieldIssues info "title" "info.title" .text ++
      fieldIssues info "version" "info.version" .text
  else []

/-- What is wrong with the basic structure of a document. -/
def structureIssues (content : Value) : List Issue :=
  if content.isObject then
    fieldIssues content "info" "info" .object ++
      infoIssues ((content.field? "info").getD .null) ++
      fieldIssues content "paths" "paths" .object
  else [⟨"root", "OpenAPI document must be an object", .wrongType, content⟩]

/-- What is wrong with the version of a document. -/
def versionIssues (content : Value) : List Issue :=
  match (content.field? "openapi").getD .null with
  | .str version =>
    if Text.startsWith "3." version then []
    else
      [⟨"openapi", "Unsupported OpenAPI version: " ++ version ++
        ". Only OpenAPI 3.x is supported.", .unsupportedVersion, .str version⟩]
  | value =>
    [⟨"openapi", "Missing or invalid 'openapi' version field. Is this an OpenAPI 3.x document?",
      .unsupportedVersion, value⟩]

/-- The issues of the tiers that come before the grammar. -/
def basicIssues (content : Value) : List Issue :=
  structureIssues content ++ versionIssues content

/-- The value that an issue of the grammar shows: none for lists and objects. -/
def shownInput : Value → Value
  | .list _ | .object _ | .mapping _ => .null
  | value => value

/-- The issue that a fault in the grammar is. -/
def Issue.ofFault (fault : Shape.Fault) : Issue :=
  { path := if fault.location.isEmpty then "root" else fault.location
    message := fault.cause.message
    kind := .schemaViolation
    value := shownInput fault.input }

/-- Decodes a document by the grammar, or lists its issues. -/
def decodeDocument (content : Value) : Except (List Issue) Value :=
  match OpenApi.decode content with
  | .ok decoded => .ok decoded
  | .error faults => .error (faults.map Issue.ofFault)

/-- The outcome of validation; `decoded` is the document as the grammar reads it, when it was
consulted and found nothing. -/
structure Validation where
  issues : List Issue
  decoded : Option Value

/-- Whether nothing is wrong. -/
def Validation.isValid (v : Validation) : Bool :=
  v.issues.isEmpty

/-- Validates a document, with a given decoder for the last tier. -/
def validateWith (decode : Value → Except (List Issue) Value) (skipGrammar : Bool)
    (content : Value) : Validation :=
  match basicIssues content with
  | [] =>
    if skipGrammar then ⟨[], none⟩
    else match decode content with
      | .ok decoded => ⟨[], some decoded⟩
      | .error issues => ⟨issues, none⟩
  | issues => ⟨issues, none⟩

/-- Validates a document. -/
def validate (skipGrammar : Bool) (content : Value) : Validation :=
  validateWith decodeDocument skipGrammar content

/-- A document that goes on to the later stages, with the issues that were tolerated. -/
structure Accepted where
  document : Document
  decoded : Option Value
  issues : List Issue

/-- Whether an issue stops a document. -/
def Issue.isFatal (lenient : Bool) (issue : Issue) : Bool :=
  !lenient || issue.kind != .schemaViolation

/-- Accepts a document after its validation, or fails with its first fatal issue; every issue is
among the details. -/
def Validation.accept (v : Validation) (document : Document) (lenient : Bool) :
    Except Failure Accepted :=
  match v.issues.filter (Issue.isFatal lenient) with
  | [] => .ok ⟨document, v.decoded, v.issues⟩
  | first :: _ =>
    .error
      { kind := first.kind
        message := "OpenAPI validation failed at " ++ first.path ++ ": " ++ first.message
        file := document.path
        details := v.issues.map Issue.line }

end ClientGen

import ClientGen.Failure
import ClientGen.FilePath
import ClientGen.Json.Reader
import ClientGen.Text.Utf8
import ClientGen.Yaml.Load

/-!
# Documents

A document is a value that was read from a text in one of two formats, which the suffix of its path
tells apart.  `parseContent` reads a text in a known format, `Document.parse` one that belongs to a
path, and `Document.requireObject` insists on an object at the top.
-/

namespace ClientGen

/-- The format of a document. -/
inductive Format where
  | json
  | yaml
  deriving Repr, DecidableEq

/-- The word for a format. -/
def Format.name : Format → String
  | json => "json"
  | yaml => "yaml"

/-- A document as it was read. -/
structure Document where
  path : String
  format : Format
  content : Value

/-- Why something is not a document. -/
inductive ReadFault where
  /-- The suffix, in lower case, belongs to no format. -/
  | unsupported (suffix : String)
  | missing (path : String)
  /-- The text of the path cannot be had. -/
  | unreadable (path reason : String)
  | notUtf8 (place : Text.Utf8.Located)
  | empty
  | json (message : String)
  | yaml (fault : Yaml.Fault)
  /-- The value at the top, of the type named, is not an object. -/
  | notObject (shown : String)

namespace ReadFault

/-- The kind of failure that a fault is. -/
def kind : ReadFault → FailureKind
  | unsupported _ => .unsupportedFormat
  | missing _ | unreadable _ _ => .notFound
  | notUtf8 _ | empty | json _ | yaml _ => .badSyntax
  | notObject _ => .invalidStructure

/-- The wording of a fault. -/
def message : ReadFault → String
  | unsupported suffix =>
    "Unsupported file format. Expected .json, .yaml, or .yml, got: " ++
      (if suffix.isEmpty then "no extension" else suffix)
  | missing path => "OpenAPI file does not exist: " ++ path
  | unreadable path reason => "Failed to read " ++ path ++ ": " ++ reason
  | notUtf8 place => "File is not valid UTF-8 text: " ++ place.message
  | empty => "Document is empty"
  | json message => "Invalid JSON: " ++ message
  | yaml fault => "Invalid YAML: " ++ fault.message
  | notObject shown => "Invalid OpenAPI file structure. Expected object, got " ++ shown

/-- The failure that a fault is for a file. -/
def failure (fault : ReadFault) (file : String) : Failure :=
  { kind := fault.kind, message := fault.message, file }

end ReadFault

/-- The nature of a fault in the text of a scalar. -/
def Yaml.Fault.nature : Yaml.Fault → FaultNature
  | .malformed | .characterCode | .integer _ _ _ | .float _ | .calendar _ | .longKey => .value
  | .characterCodeSize | .largeUnit => .overflow
  | .notText => .type
  | .emptyNumber => .index
  | .truthValue _ => .key
  | .timestamp => .attribute
  | .recursion => .recursion

/-- Why a text in a known format has no content: a fault of the text, or one that the reading of a
scalar met. -/
inductive ContentFault where
  | text (fault : ReadFault)
  | scalar (u : Unexpected)

/-- The problem that a content fault is for a file. -/
def ContentFault.problem (file : String) : ContentFault → Problem
  | text fault => .failure (fault.failure file)
  | scalar u => .unexpected u

/-- Reads a text as YAML, with texts as keys. -/
def parseYaml (text : String) : Except ContentFault Value :=
  match Yaml.load .document text with
  | .ok value => .ok value
  | .error .malformed => .error (.text (.yaml .malformed))
  | .error fault => .error (.scalar ⟨fault.nature, fault.message⟩)

/-- Reads a text as JSON. -/
def parseJson (text : String) : Except ContentFault Value :=
  match Json.read text with
  | .ok value => .ok value
  | .error failure =>
    match failure.fault with
    | .digits _ => .error (.scalar ⟨.value, failure.message text⟩)
    | _ => .error (.text (.json (failure.message text)))

/-- Reads a text in a known format; one of blanks alone is empty. -/
def parseContent (format : Format) (text : String) : Except ContentFault Value :=
  if Text.isAllBlank text then .error (.text .empty)
  else match format with
    | .json => parseJson text
    | .yaml => parseYaml text

/-- The format that the suffix of a path stands for. -/
def Format.ofPath (path : String) : Except ReadFault Format :=
  let suffix := Text.lower (FilePath.suffix path)
  if suffix == ".json" then .ok .json
  else if suffix == ".yaml" || suffix == ".yml" then .ok .yaml
  else .error (.unsupported suffix)

namespace Document

/-- The document of a text that belongs to a path. -/
def parse (path text : String) : Except Problem Document :=
  match Format.ofPath path with
  | .error fault => .error (.failure (fault.failure path))
  | .ok format =>
    match parseContent format text with
    | .error fault => .error (fault.problem path)
    | .ok content => .ok ⟨path, format, content⟩

/-- The document of octets that belong to a path. -/
def parseOctets (path : String) (octets : List UInt8) : Except Problem Document :=
  match Format.ofPath path with
  | .error fault => .error (.failure (fault.failure path))
  | .ok _ =>
    match Text.Utf8.decode octets with
    | .error place => .error (.failure ((ReadFault.notUtf8 place).failure path))
    | .ok text => parse path text

/-- The document, which has to be an object at the top. -/
def requireObject (document : Document) : Except Problem Document :=
  if document.content.isObject then .ok document
  else
    let shown := match document.content with
      | .null => "empty document"
      | value => value.typeName
    .error (.failure ((ReadFault.notObject shown).failure document.path))

end Document

end ClientGen

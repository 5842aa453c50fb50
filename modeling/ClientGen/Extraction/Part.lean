import ClientGen.Extraction.Access
import ClientGen.Shape.Check

/-!
# Parts of an API

The parts that an API is made of, with the fields that are read from a document and the shapes these
must have.  `Part.read` checks the fields of a part.
-/

namespace ClientGen.Extraction

/-- The parts that are read from a document. -/
inductive Part where
  | info
  | server
  | tag
  | parameter
  | header
  | body
  | response
  | operation
  | path
  | api
  | primitive
  | array
  | object
  | enumeration
  | reference
  deriving Repr, DecidableEq

namespace Part

/-- The title of a part in messages. -/
def title : Part → String
  | info => "ApiInfo"
  | server => "ServerInfo"
  | tag => "TagInfo"
  | parameter => "Parameter"
  | header => "HeaderInfo"
  | body => "RequestBody"
  | response => "Response"
  | operation => "Operation"
  | path => "PathItem"
  | api => "ExtractedApiData"
  | primitive => "PrimitiveSchema"
  | array => "ArraySchema"
  | object => "ObjectSchema"
  | enumeration => "EnumSchema"
  | reference => "ReferenceSchema"

/-- A text. -/
def text : Shape Part := .text 0

/-- A text or null. -/
def textOrNull : Shape Part := .nullable text

/-- A field of a part. -/
def member (name : String) (shape : Shape Part) : Member Part :=
  ⟨name, name, false, shape⟩

/-- Scopes by scheme. -/
def security : Shape Part := .tuple (.table .free (.tuple text))

/-- What every schema says besides its type. -/
def schemaMembers : List (Member Part) :=
  [member "description" textOrNull,
   member "minimum" (.nullable (.number false)),
   member "maximum" (.nullable (.number false)),
   member "min_length" (.nullable (.integer none)),
   member "max_length" (.nullable (.integer none)),
   member "pattern" textOrNull]

/-- The fields of a part that are checked. -/
def members : Part → List (Member Part)
  | info =>
    [member "title" (.text 1), member "version" (.text 1), member "description" textOrNull]
  | server => [member "url" text, member "description" textOrNull]
  | tag => [member "name" text, member "description" textOrNull]
  | parameter => [member "name" text, member "description" textOrNull]
  | header => [member "name" text, member "description" textOrNull]
  | body => [member "description" textOrNull]
  | response => [member "description" text]
  | operation =>
    [member "operation_id" textOrNull, member "summary" textOrNull,
     member "description" textOrNull, member "tags" (.tuple text), member "security" security]
  | path => [member "summary" textOrNull, member "description" textOrNull]
  | api => [member "security" security]
  | primitive => schemaMembers ++ [member "type" textOrNull, member "format" textOrNull]
  | array => schemaMembers
  | object =>
    schemaMembers ++ [member "properties" (.table .free .any), member "required" (.tuple text)]
  | enumeration => schemaMembers ++ [member "type" textOrNull]
  | reference => [member "description" textOrNull]

/-- The record of a part. -/
def grammar (part : Part) : Record Part :=
  ⟨part.title, part.members, false⟩

/-- Checks the fields of a part: the part as it is read, or what is wrong with it. -/
def read (part : Part) (fields : List (String × Value)) : Except Fault Value :=
  match Shape.check grammar (.record part) (.object fields) with
  | .ok value => .ok value
  | .error faults => .error (.invalid part.title faults)

end Part

/-- The text of a field that was checked. -/
def textOf (name : String) (part : Value) : String :=
  ((part.field? name).bind Value.str?).getD ""

/-- The text of a field that was checked and may be null. -/
def textOf? (name : String) (part : Value) : Option String :=
  (part.field? name).bind Value.str?

/-- The texts of a list. -/
def textsIn : Value → List String
  | .list items => items.filterMap Value.str?
  | _ => []

/-- The texts of a field that was checked. -/
def textsOf (name : String) (part : Value) : List String :=
  textsIn (fieldOrNull name part)

/-- The number of a field that was checked. -/
def numberOf? (name : String) (part : Value) : Option Float :=
  match part.field? name with
  | some (.float x) => some x
  | _ => none

/-- The integer of a field that was checked. -/
def integerOf? (name : String) (part : Value) : Option Int :=
  match part.field? name with
  | some (.int n) => some n
  | _ => none

end ClientGen.Extraction

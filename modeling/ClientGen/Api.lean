import ClientGen.Api.Schema
import ClientGen.Text.Search

/-!
# APIs

What code is generated from: the operations of an API by path, with parameters, bodies and
responses, and the schemas that it names.
-/

namespace ClientGen

/-- Where a parameter of a request stands. -/
inductive ParameterPlace where
  | path
  | query
  | header
  | cookie
  deriving Repr, DecidableEq

namespace ParameterPlace

/-- Every place. -/
def all : List ParameterPlace := [path, query, header, cookie]

/-- The word for a place. -/
def name : ParameterPlace → String
  | path => "path"
  | query => "query"
  | header => "header"
  | cookie => "cookie"

/-- The place of a word. -/
def ofName? (name : String) : Option ParameterPlace :=
  all.find? (·.name == name)

end ParameterPlace

/-- A parameter of a request. -/
structure Parameter where
  name : String
  place : ParameterPlace
  required : Bool
  description : Option String
  deprecated : Bool
  schema : Option Schema
  sample : Value

/-- One media type of a body. -/
structure MediaEntry where
  mediaType : String
  schema : Option Schema
  sample : Value

/-- A header of a response. -/
structure HeaderInfo where
  name : String
  description : Option String
  schema : Option Schema

/-- The body of a request. -/
structure RequestBody where
  required : Bool
  description : Option String
  content : List MediaEntry

/-- A response; `status` is its key, and `code` the number that the key stands for. -/
structure Response where
  status : String
  code : Option Nat
  description : String
  schema : Option Schema
  content : List MediaEntry
  headers : List HeaderInfo

/-- What a request has to prove: scopes by scheme. -/
abbrev Security := List (List (String × List String))

/-- An operation: a method on a path. -/
structure Operation where
  method : String
  path : String
  operationId : Option String
  summary : Option String
  description : Option String
  tags : List String
  parameters : List Parameter
  body : Option RequestBody
  responses : List Response
  security : Security
  deprecated : Bool

/-- A path with its operations; the parameters are shared by them. -/
structure PathEntry where
  path : String
  summary : Option String
  description : Option String
  operations : List Operation
  parameters : List Parameter

/-- The named parts of an API. -/
structure Components where
  schemas : List (String × Schema)
  responses : List (String × Response)
  parameters : List (String × Parameter)
  bodies : List (String × RequestBody)

/-- The title of an API and its version. -/
structure ApiInfo where
  title : String
  version : String
  description : Option String

/-- A server of an API. -/
structure ServerInfo where
  url : String
  description : Option String

/-- A tag that a document declares. -/
structure TagInfo where
  name : String
  description : Option String

/-- An API. -/
structure Api where
  info : ApiInfo
  servers : List ServerInfo
  paths : List PathEntry
  components : Components
  security : Security
  tags : List TagInfo

namespace Api

/-- The operations in document order. -/
def operations (api : Api) : List Operation :=
  api.paths.flatMap PathEntry.operations

/-- The component schema that a reference names. -/
def lookup? (api : Api) (ref name : String) : Option Schema :=
  if Text.startsWith "#/components/schemas/" ref then Entries.get? name api.components.schemas
  else none

end Api

/-- The text for an operation: its method and path. -/
def Operation.label (operation : Operation) : String :=
  operation.method ++ " " ++ operation.path

end ClientGen

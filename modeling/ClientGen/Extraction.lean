import ClientGen.Api
import ClientGen.Decimal.Numeral
import ClientGen.Extraction.Access
import ClientGen.Extraction.Schema
import ClientGen.Text.Blank
import ClientGen.Text.Digit

/-!
# Extraction of APIs

An API is read from a resolved document, part by part and in document order.  Entries that are still
references are left out.  Parameters of a path stay with the path, and parameters that are part of
the path itself are required, whatever the document says.
-/

namespace ClientGen.Extraction

/-- The fields of a path that hold operations, in the order in which they are read. -/
def methods : List String :=
  ["get", "put", "post", "delete", "options", "head", "patch", "trace"]

/-- Whether a value is still a reference. -/
def isReference (value : Value) : Bool :=
  (Reference.of? value).isSome

/-- Whether a value is an object and no reference. -/
def isEntry (value : Value) : Bool :=
  value.isObject && !isReference value

/-- Whether a key belongs to an extension. -/
def isExtension (key : String) : Bool :=
  Text.startsWith "x-" key

/-! ### Status codes

The key of a response is a number, a class of numbers such as `4XX`, which stands for its first
number, or a word that stands for none.
-/

/-- The number of a class of codes, written with its first digit and twice the letter X. -/
def statusClass? : List Char → Option Nat
  | [d, a, b] =>
    if '1' ≤ d ∧ d ≤ '5' ∧ a.toUpper = 'X' ∧ b.toUpper = 'X' then
      some ((d.toNat - '0'.toNat) * 100)
    else none
  | _ => none

/-- The number that the key of a response stands for. -/
def statusCode (key : String) : Except Fault (Option Nat) :=
  let cs := Text.trimChars key.toList
  if !cs.isEmpty && cs.all Text.isDigit then
    let text := String.ofList cs
    match Numeral.integer 10 text with
    | .ok n => .ok (some n.toNat)
    | .error fault => .error (.statusCode text fault)
  else .ok (statusClass? cs)

/-! ### What every document has -/

/-- Reads title, version and description. -/
def readInfo (document : Value) : Except Fault ApiInfo := do
  let info ← field "info" document
  let title ← field "title" info
  let version ← field "version" info
  let description ← getField "description" info
  let part ← Part.info.read
    [("title", title), ("version", version), ("description", description)]
  return ⟨textOf "title" part, textOf "version" part, textOf? "description" part⟩

/-- Reads a server. -/
def readServer (server : Value) : Except Fault ServerInfo := do
  let url ← field "url" server
  let part ← Part.server.read [("url", url), ("description", fieldOrNull "description" server)]
  return ⟨textOf "url" part, textOf? "description" part⟩

/-- Reads the servers. -/
def readServers (document : Value) : Except Fault (List ServerInfo) := do
  (← itemsOrNone (fieldOrNull "servers" document)).mapM readServer

/-- Reads a tag. -/
def readTag (tag : Value) : Except Fault TagInfo := do
  let name ← field "name" tag
  let part ← Part.tag.read [("name", name), ("description", fieldOrNull "description" tag)]
  return ⟨textOf "name" part, textOf? "description" part⟩

/-- Reads the tags. -/
def readTags (document : Value) : Except Fault (List TagInfo) := do
  (← itemsOrNone (fieldOrNull "tags" document)).mapM readTag

/-- An object with keys that may be of any type. -/
def objectOf (entries : List (Value × Value)) : Value :=
  if entries.all fun entry => entry.1.str?.isSome then
    .object (entries.filterMap fun entry => entry.1.str?.map fun name => (name, entry.2))
  else .mapping entries

/-- Reads the scopes of the schemes of a requirement. -/
def readRequirement (requirement : Value) : Except Fault Value := do
  let schemes ← entries "items" requirement
  let scopes ← schemes.mapM fun scheme => do return (scheme.1, Value.list (← itemsOrNone scheme.2))
  return objectOf scopes

/-- Reads what a request has to prove, unchecked. -/
def readRequirements (requirements : Value) : Except Fault Value := do
  return .list (← (← itemsOrNone requirements).mapM readRequirement)

/-- The requirements of a part that were checked. -/
def securityOf (part : Value) : Security :=
  match part.field? "security" with
  | some (.list requirements) =>
    requirements.map fun requirement =>
      match requirement with
      | .object schemes => schemes.map fun scheme => (scheme.1, textsIn scheme.2)
      | _ => []
  | _ => []

/-! ### Parameters and bodies -/

/-- The schema of a parameter: its own, or that of the first media type that has one. -/
def parameterSchema (parameter : Value) : Except Fault Value :=
  match parameter.field? "schema" with
  | some schema => .ok schema
  | none => do
    let media ← entriesOrNone "values" (fieldOrNull "content" parameter)
    return (media.findSome? fun entry => entry.2.field? "schema").getD .null

/-- The place of a parameter. -/
def readPlace (place : Value) : Except Fault ParameterPlace :=
  match place.str?.bind ParameterPlace.ofName? with
  | some p => .ok p
  | none => .error (.place place)

/-- Reads a parameter. -/
def readParameter (parameter : Value) : Except Fault Parameter := do
  let place ← readPlace (← field "in" parameter)
  let name ← field "name" parameter
  let schema ← schema (← parameterSchema parameter)
  let part ← Part.parameter.read
    [("name", name), ("description", fieldOrNull "description" parameter)]
  return {
    name := textOf "name" part
    place
    -- A path cannot be written without its parameters.
    required := place == .path || (fieldOrNull "required" parameter).isTruthy
    description := textOf? "description" part
    deprecated := (fieldOrNull "deprecated" parameter).isTruthy
    schema
    sample := fieldOrNull "example" parameter }

/-- Reads parameters. -/
def readParameters (parameters : Value) : Except Fault (List Parameter) := do
  ((← itemsOrNone parameters).filter fun parameter => !isReference parameter).mapM readParameter

/-- Reads a media type of a body. -/
def readMedia (entry : Value × Value) : Except Fault MediaEntry := do
  let media := if entry.2.isObject then entry.2 else .object []
  return ⟨entry.1.plain, ← schema (fieldOrNull "schema" media), fieldOrNull "example" media⟩

/-- Reads the media types of a body. -/
def readContent (content : Value) : Except Fault (List MediaEntry) := do
  (← entriesOrNone "items" content).mapM readMedia

/-- Reads the body of a request. -/
def readBody (body : Value) : Except Fault RequestBody := do
  let content ← readContent (fieldOrNull "content" body)
  let part ← Part.body.read [("description", fieldOrNull "description" body)]
  return ⟨(fieldOrNull "required" body).isTruthy, textOf? "description" part, content⟩

/-! ### Responses -/

/-- Reads a header. -/
def readHeader (entry : Value × Value) : Except Fault HeaderInfo := do
  let name := entry.1.plain
  if isEntry entry.2 then
    let schema ← schema (fieldOrNull "schema" entry.2)
    let part ← Part.header.read
      [("name", .str name), ("description", fieldOrNull "description" entry.2)]
    return ⟨name, textOf? "description" part, schema⟩
  else return ⟨name, none, none⟩

/-- Reads headers. -/
def readHeaders (headers : Value) : Except Fault (List HeaderInfo) := do
  (← entriesOrNone "items" headers).mapM readHeader

/-- Whether a media type is that of JSON, whatever its parameters. -/
def isJsonType (mediaType : String) : Bool :=
  Text.trim (((Text.split ';' mediaType).head?).getD "") == "application/json"

/-- The schema of a response: that of its JSON, or one of its own, or the first among its media
types. -/
def primarySchema (response : Value) (content : List MediaEntry) :
    Except Fault (Option Schema) :=
  let json := content.findSome? fun entry =>
    if isJsonType entry.mediaType then entry.schema else none
  match json with
  | some schema => .ok (some schema)
  | none => do
    match ← schema (fieldOrNull "schema" response) with
    | some schema => return some schema
    | none => return content.findSome? MediaEntry.schema

/-- Reads a response under a key. -/
def readResponse (status : String) (response : Value) : Except Fault Response := do
  let content ← readContent (fieldOrNull "content" response)
  let code ← statusCode status
  let schema ← primarySchema response content
  let headers ← readHeaders (fieldOrNull "headers" response)
  let description := fieldOrNull "description" response
  let part ← Part.response.read
    [("description", if description.isTruthy then description else .str "")]
  return ⟨status, code, textOf "description" part, schema, content, headers⟩

/-- Reads the entries of a table that are objects and no references. -/
def readEntries {α : Type} (read : String → Value → Except Fault α)
    (table : List (Value × Value)) : Except Fault (List (String × α)) :=
  (table.filter fun entry => isEntry entry.2).mapM fun entry => do
    return (entry.1.plain, ← read entry.1.plain entry.2)

/-! ### Operations and paths -/

/-- The responses of an operation. -/
def responsesOf (label : String) (operation : Value) : Except Fault (List (Value × Value)) :=
  let responses := fieldOrNull "responses" operation
  if responses.isObject then entries "items" responses
  else
    .error (.malformed ("Operation " ++ label ++ ": 'responses' " ++
      match responses with
      | .null => "is missing"
      | _ => "must be an object"))

/-- Reads an operation. -/
def readOperation (method path : String) (operation : Value) : Except Fault Operation := do
  let upper := String.ofList (method.toList.map Char.toUpper)
  let label := upper ++ " " ++ path
  if !operation.isObject then
    throw (.malformed ("Operation " ++ label ++ " must be an object, got " ++ operation.typeName))
  let responses ← responsesOf label operation
  let body := fieldOrNull "requestBody" operation
  let tags ← itemsOrNone (fieldOrNull "tags" operation)
  let parameters ← readParameters (fieldOrNull "parameters" operation)
  let body ← if isEntry body then some <$> readBody body else pure none
  let responses ← readEntries readResponse responses
  let security ← readRequirements (fieldOrNull "security" operation)
  let part ← Part.operation.read
    [("operation_id", fieldOrNull "operationId" operation),
     ("summary", fieldOrNull "summary" operation),
     ("description", fieldOrNull "description" operation),
     ("tags", .list tags), ("security", security)]
  return {
    method := upper
    path
    operationId := textOf? "operation_id" part
    summary := textOf? "summary" part
    description := textOf? "description" part
    tags := textsOf "tags" part
    parameters
    body
    responses := responses.map (·.2)
    security := securityOf part
    deprecated := (fieldOrNull "deprecated" operation).isTruthy }

/-- Reads the operations of a path. -/
def readOperations (path : String) (item : Value) : Except Fault (List Operation) :=
  (methods.filter fun method => hasField method item).mapM fun method =>
    readOperation method path (fieldOrNull method item)

/-- Reads a path. -/
def readPath (path : String) (item : Value) : Except Fault PathEntry := do
  if !item.isObject then
    throw (.malformed ("Path item " ++ path ++ " must be an object, got " ++ item.typeName))
  let operations ← readOperations path item
  let parameters ← readParameters (fieldOrNull "parameters" item)
  let part ← Part.path.read
    [("summary", fieldOrNull "summary" item), ("description", fieldOrNull "description" item)]
  return ⟨path, textOf? "summary" part, textOf? "description" part, operations, parameters⟩

/-- Reads the paths of a document. -/
def readPaths (document : Value) : Except Fault (List PathEntry) := do
  let paths ← entriesOrNone "items" (fieldOrNull "paths" document)
  (paths.filter fun path => !isExtension path.1.plain).mapM fun path =>
    readPath path.1.plain path.2

/-! ### Components -/

/-- Reads the component schemas. -/
def readSchemas : List (Value × Value) → Except Fault (List (String × Schema))
  | [] => .ok []
  | (name, value) :: rest => do
    let schema? ← if isReference value then pure none else schema value
    let more ← readSchemas rest
    return match schema? with
      | some schema => (name.plain, schema) :: more
      | none => more

/-- Reads the components of a document. -/
def readComponents (components : Value) : Except Fault Components := do
  let table (name : String) : Except Fault (List (Value × Value)) := do
    entriesOrNone "items" (← getField name components)
  let schemas ← readSchemas (← table "schemas")
  let responses ← readEntries readResponse (← table "responses")
  let parameters ← readEntries (fun _ => readParameter) (← table "parameters")
  let bodies ← readEntries (fun _ => readBody) (← table "requestBodies")
  return ⟨schemas, responses, parameters, bodies⟩

/-! ### The API -/

/-- Reads the API of a document. -/
def readApi (document : Value) : Except Fault Api := do
  let info ← readInfo document
  let servers ← readServers document
  let paths ← readPaths document
  let components := fieldOrNull "components" document
  let components ← readComponents (if components.isTruthy then components else .object [])
  let security ← readRequirements (fieldOrNull "security" document)
  let tags ← readTags document
  let part ← Part.api.read [("security", security)]
  return ⟨info, servers, paths, components, securityOf part, tags⟩

end ClientGen.Extraction

namespace ClientGen

/-- The API of a resolved document that belongs to a file. -/
def Api.extract (file : String) (document : Value) : Except Failure Api :=
  match Extraction.readApi document with
  | .ok api => .ok api
  | .error fault => .error (fault.failure file)

end ClientGen

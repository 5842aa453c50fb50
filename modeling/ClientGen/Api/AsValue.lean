import ClientGen.Api

/-!
# APIs as values

An API is shown as a value: objects with one field for each part, in a fixed order.  What is null is
left out.  An API quotes values of its document, such as examples; `say` tells how they are shown.
-/

namespace ClientGen

/-- The fields that are not null. -/
def presentFields (fields : List (String × Value)) : List (String × Value) :=
  fields.filter fun field =>
    match field.2 with
    | .null => false
    | _ => true

/-- An object without the fields that are null. -/
def Value.ofFields (fields : List (String × Value)) : Value :=
  .object (presentFields fields)

/-- The same, where the fields with the names `quoted` hold values of a document. -/
def Value.ofQuoting (say : Value → Value) (quoted : List String) (fields : List (String × Value)) :
    Value :=
  .object ((presentFields fields).map fun (name, value) =>
    (name, if quoted.contains name then say value else value))

/-- A text that may be missing; null stands for none. -/
def Value.ofText? (text : Option String) : Value :=
  (text.map Value.str).getD .null

/-- A list of texts. -/
def Value.ofTexts (texts : List String) : Value :=
  .list (texts.map Value.str)

/-- A table with values made of what it holds. -/
def Value.ofTable {α : Type} (make : α → Value) (entries : List (String × α)) : Value :=
  .object (entries.map fun entry => (entry.1, make entry.2))

/-- The fields of what a schema says besides its type. -/
def SchemaInfo.fields (info : SchemaInfo) : List (String × Value) :=
  [("description", info.description), ("example", info.sample), ("default", info.default),
   ("minimum", (info.minimum.map Value.float).getD .null),
   ("maximum", (info.maximum.map Value.float).getD .null),
   ("min_length", (info.minLength.map Value.int).getD .null),
   ("max_length", (info.maxLength.map Value.int).getD .null),
   ("pattern", .ofText? info.pattern), ("nullable", .bool info.nullable),
   ("deprecated", .bool info.deprecated)]

namespace Schema

/-- A schema of which more is known, as a value. -/
def shown (say : Value → Value) (schema : Schema) (further : List (String × Value)) : Value :=
  .ofQuoting say ["description", "example", "default"]
    (schema.info.fields ++ [("kind", .str schema.kindName)] ++ further)

mutual

/-- A schema as a value. -/
def toValue (say : Value → Value) : Schema → Value
  | primitive info type format =>
    shown say (primitive info type format) [("type", .ofText? type), ("format", .ofText? format)]
  | array info items =>
    shown say (array info items) [("items", optionalValue say items)]
  | object info properties required additional =>
    shown say (object info properties required additional)
      [("properties", .object (propertyValues say properties)), ("required", .ofTexts required),
       ("additional_properties", additionalValue say additional)]
  | enumeration info values type =>
    shown say (enumeration info values type)
      [("values", .list (values.map say)), ("type", .ofText? type)]
  | reference info ref name =>
    shown say (reference info ref name) [("ref", .str ref), ("name", .str name)]

/-- A schema that may be missing as a value. -/
def optionalValue (say : Value → Value) : Option Schema → Value
  | some schema => toValue say schema
  | none => .null

/-- What an object schema says about further properties as a value. -/
def additionalValue (say : Value → Value) : Additional Schema → Value
  | .unsaid => .null
  | .allowed b => .bool b
  | .schema schema => toValue say schema

/-- The fields of properties. -/
def propertyValues (say : Value → Value) : List (String × Schema) → List (String × Value)
  | [] => []
  | (name, schema) :: rest => (name, toValue say schema) :: propertyValues say rest

end

end Schema

/-- A parameter as a value. -/
def Parameter.toValue (say : Value → Value) (parameter : Parameter) : Value :=
  .ofQuoting say ["example"]
    [("name", .str parameter.name), ("location", .str parameter.place.name),
     ("required", .bool parameter.required), ("description", .ofText? parameter.description),
     ("deprecated", .bool parameter.deprecated),
     ("schema", Schema.optionalValue say parameter.schema), ("example", parameter.sample)]

/-- A media type of a body as a value. -/
def MediaEntry.toValue (say : Value → Value) (entry : MediaEntry) : Value :=
  .ofQuoting say ["example"]
    [("media_type", .str entry.mediaType), ("schema", Schema.optionalValue say entry.schema),
     ("example", entry.sample)]

/-- A header as a value. -/
def HeaderInfo.toValue (say : Value → Value) (header : HeaderInfo) : Value :=
  .ofFields
    [("name", .str header.name), ("description", .ofText? header.description),
     ("schema", Schema.optionalValue say header.schema)]

/-- The body of a request as a value. -/
def RequestBody.toValue (say : Value → Value) (body : RequestBody) : Value :=
  .ofFields
    [("required", .bool body.required), ("description", .ofText? body.description),
     ("content", .list (body.content.map (MediaEntry.toValue say)))]

/-- A response as a value. -/
def Response.toValue (say : Value → Value) (response : Response) : Value :=
  .ofFields
    [("status", .str response.status),
     ("status_code", (response.code.map fun code => Value.int code).getD .null),
     ("description", .str response.description),
     ("schema", Schema.optionalValue say response.schema),
     ("content", .list (response.content.map (MediaEntry.toValue say))),
     ("headers", .list (response.headers.map (HeaderInfo.toValue say)))]

/-- What a request has to prove as a value. -/
def securityValue (security : Security) : Value :=
  .list (security.map (Value.ofTable Value.ofTexts))

/-- An operation as a value. -/
def Operation.toValue (say : Value → Value) (operation : Operation) : Value :=
  .ofFields
    [("method", .str operation.method), ("path", .str operation.path),
     ("operation_id", .ofText? operation.operationId), ("summary", .ofText? operation.summary),
     ("description", .ofText? operation.description), ("tags", .ofTexts operation.tags),
     ("parameters", .list (operation.parameters.map (Parameter.toValue say))),
     ("request_body", (operation.body.map (RequestBody.toValue say)).getD .null),
     ("responses", .list (operation.responses.map (Response.toValue say))),
     ("security", securityValue operation.security),
     ("deprecated", .bool operation.deprecated)]

/-- A path with its operations as a value. -/
def PathEntry.toValue (say : Value → Value) (path : PathEntry) : Value :=
  .ofFields
    [("path", .str path.path), ("summary", .ofText? path.summary),
     ("description", .ofText? path.description),
     ("operations", .list (path.operations.map (Operation.toValue say))),
     ("parameters", .list (path.parameters.map (Parameter.toValue say)))]

/-- The named parts of an API as a value. -/
def Components.toValue (say : Value → Value) (components : Components) : Value :=
  .ofFields
    [("schemas", .ofTable (Schema.toValue say) components.schemas),
     ("responses", .ofTable (Response.toValue say) components.responses),
     ("parameters", .ofTable (Parameter.toValue say) components.parameters),
     ("request_bodies", .ofTable (RequestBody.toValue say) components.bodies)]

/-- An API as a value. -/
def Api.toValue (say : Value → Value) (api : Api) : Value :=
  .ofFields
    [("info", .ofFields
        [("title", .str api.info.title), ("version", .str api.info.version),
         ("description", .ofText? api.info.description)]),
     ("servers", .list (api.servers.map fun server => .ofFields
        [("url", .str server.url), ("description", .ofText? server.description)])),
     ("paths", .list (api.paths.map (PathEntry.toValue say))),
     ("components", api.components.toValue say), ("security", securityValue api.security),
     ("tags", .list (api.tags.map fun tag => .ofFields
        [("name", .str tag.name), ("description", .ofText? tag.description)]))]

end ClientGen

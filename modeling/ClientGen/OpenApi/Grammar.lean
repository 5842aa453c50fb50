import ClientGen.Shape.Check

/-!
# The grammar of OpenAPI documents

The objects that OpenAPI 3 documents are made of, and the members of each.  Places that may hold an
object or a reference to one are choices between the two.  Members that the grammar does not name,
extensions among them, are left out of what is read.
-/

namespace ClientGen.OpenApi

/-- The kinds of objects in a document. -/
inductive Element where
  | reference
  | contact
  | license
  | info
  | serverVariable
  | server
  | externalDocs
  | tag
  | discriminator
  | xml
  | schema
  | exampleObject
  | mediaType
  | header
  | encoding
  | parameter
  | requestBody
  | link
  | response
  | operation
  | pathItem
  | oauthFlow
  | oauthFlows
  | apiKeyScheme
  | httpScheme
  | oauth2Scheme
  | openIdScheme
  | mutualTlsScheme
  | components
  | document
  deriving Repr, DecidableEq

/-- The title of an element in messages. -/
def Element.title : Element → String
  | reference => "Reference"
  | contact => "Contact"
  | license => "License"
  | info => "Info"
  | serverVariable => "ServerVariable"
  | server => "Server"
  | externalDocs => "ExternalDocumentation"
  | tag => "Tag"
  | discriminator => "Discriminator"
  | xml => "Xml"
  | schema => "Schema"
  | exampleObject => "Example"
  | mediaType => "MediaType"
  | header => "Header"
  | encoding => "Encoding"
  | parameter => "Parameter"
  | requestBody => "RequestBody"
  | link => "Link"
  | response => "Response"
  | operation => "Operation"
  | pathItem => "PathItem"
  | oauthFlow => "OAuthFlow"
  | oauthFlows => "OAuthFlows"
  | apiKeyScheme => "ApiKeySecurityScheme"
  | httpScheme => "HttpSecurityScheme"
  | oauth2Scheme => "OAuth2SecurityScheme"
  | openIdScheme => "OpenIdConnectSecurityScheme"
  | mutualTlsScheme => "MutualTlsSecurityScheme"
  | components => "Components"
  | document => "OpenApiDocument"

/-! ### Shapes that occur often -/

/-- A text. -/
def text : Shape Element := .text 0

/-- A number. -/
def number : Shape Element := .number false

/-- A table with any names. -/
def tableOf (item : Shape Element) : Shape Element := .table .free item

/-- An element or a reference to one. -/
def orReference (element : Element) : Shape Element :=
  .choice [(Element.reference.title, .record .reference), (element.title, .record element)]

/-- A text or a list of texts. -/
def textOrTexts : Shape Element :=
  .choice [("str", text), ("list[str]", .list text)]

/-- A truth value or a number. -/
def truthOrNumber : Shape Element :=
  .choice [("bool", .truth), ("float", number)]

/-- A truth value, a schema or a reference to one. -/
def truthOrSchema : Shape Element :=
  .choice [("bool", .truth), (Element.reference.title, .record .reference),
    (Element.schema.title, .record .schema)]

/-- Path items by expression, or a reference to such a table. -/
def callbacks : Shape Element :=
  .choice [(Element.reference.title, .record .reference),
    ("dict[str,PathItem]", tableOf (.record .pathItem))]

/-- The security schemes by their type. -/
def securitySchemes : List (String × Element) :=
  [("apiKey", .apiKeyScheme), ("http", .httpScheme), ("oauth2", .oauth2Scheme),
   ("openIdConnect", .openIdScheme), ("mutualTLS", .mutualTlsScheme)]

/-- A security scheme or a reference to one. -/
def securityScheme : Shape Element :=
  .choice [(Element.reference.title, .record .reference),
    ("tagged-union[" ++ Text.join "," (securitySchemes.map fun scheme => scheme.2.title) ++ "]",
      .tagged "type" securitySchemes)]

/-! ### Members -/

/-- A member that has to be present. -/
def required (name : String) (shape : Shape Element) : Member Element :=
  ⟨name, name, true, shape⟩

/-- A member that has to be present, under either of two names. -/
def requiredAlias (name secondName : String) (shape : Shape Element) : Member Element :=
  ⟨name, secondName, true, shape⟩

/-- A member that may be absent or null. -/
def optional (name : String) (shape : Shape Element) : Member Element :=
  ⟨name, name, false, .nullable shape⟩

/-- A member that may be absent or null, with two names. -/
def optionalAlias (name secondName : String) (shape : Shape Element) : Member Element :=
  ⟨name, secondName, false, .nullable shape⟩

/-- A member that may be absent or hold anything. -/
def free (name : String) : Member Element :=
  ⟨name, name, false, .any⟩

/-- A member that may be absent or hold anything, with two names. -/
def freeAlias (name secondName : String) : Member Element :=
  ⟨name, secondName, false, .any⟩

/-- The members of an element. -/
def Element.members : Element → List (Member Element)
  | .reference =>
    [requiredAlias "$ref" "ref" text,
     optional "summary" text,
     optional "description" text]
  | .contact =>
    [optional "name" text,
     optional "url" text,
     optional "email" text]
  | .license =>
    [required "name" text,
     optional "identifier" text,
     optional "url" text]
  | .info =>
    [required "title" text,
     required "version" text,
     optional "description" text,
     optionalAlias "termsOfService" "terms_of_service" text,
     optional "contact" (.record .contact),
     optional "license" (.record .license),
     optional "summary" text]
  | .serverVariable =>
    [optional "enum" (.list text),
     required "default" text,
     optional "description" text]
  | .server =>
    [required "url" text,
     optional "description" text,
     optional "variables" (tableOf (.record .serverVariable))]
  | .externalDocs =>
    [required "url" text,
     optional "description" text]
  | .tag =>
    [required "name" text,
     optional "description" text,
     optionalAlias "externalDocs" "external_docs" (.record .externalDocs)]
  | .discriminator =>
    [requiredAlias "propertyName" "property_name" text,
     optional "mapping" (tableOf text)]
  | .xml =>
    [optional "name" text,
     optional "namespace" text,
     optional "prefix" text,
     optional "attribute" .truth,
     optional "wrapped" .truth]
  | .schema =>
    [optional "title" text,
     optionalAlias "multipleOf" "multiple_of" number,
     optional "maximum" number,
     optionalAlias "exclusiveMaximum" "exclusive_maximum" truthOrNumber,
     optional "minimum" number,
     optionalAlias "exclusiveMinimum" "exclusive_minimum" truthOrNumber,
     optionalAlias "maxLength" "max_length" (.integer none),
     optionalAlias "minLength" "min_length" (.integer none),
     optional "pattern" text,
     optionalAlias "maxItems" "max_items" (.integer none),
     optionalAlias "minItems" "min_items" (.integer none),
     optionalAlias "uniqueItems" "unique_items" .truth,
     optionalAlias "maxProperties" "max_properties" (.integer none),
     optionalAlias "minProperties" "min_properties" (.integer none),
     optional "required" (.list text),
     optional "enum" (.list .any),
     optional "type" textOrTexts,
     optionalAlias "not" "not_" (orReference .schema),
     optionalAlias "allOf" "all_of" (.list (orReference .schema)),
     optionalAlias "oneOf" "one_of" (.list (orReference .schema)),
     optionalAlias "anyOf" "any_of" (.list (orReference .schema)),
     optional "items" (orReference .schema),
     optional "properties" (tableOf (orReference .schema)),
     optionalAlias "additionalProperties" "additional_properties" truthOrSchema,
     optional "description" text,
     optional "format" text,
     free "default",
     optional "nullable" .truth,
     optional "discriminator" (.record .discriminator),
     optionalAlias "readOnly" "read_only" .truth,
     optionalAlias "writeOnly" "write_only" .truth,
     optional "xml" (.record .xml),
     optionalAlias "externalDocs" "external_docs" (.record .externalDocs),
     free "example",
     optional "deprecated" .truth]
  | .exampleObject =>
    [optional "summary" text,
     optional "description" text,
     free "value",
     optionalAlias "externalValue" "external_value" text]
  | .mediaType =>
    [optionalAlias "schema" "schema_" (orReference .schema),
     free "example",
     optional "examples" (tableOf (orReference .exampleObject)),
     optional "encoding" (tableOf (.record .encoding))]
  | .header =>
    [optional "description" text,
     optional "required" .truth,
     optional "deprecated" .truth,
     optionalAlias "allowEmptyValue" "allow_empty_value" .truth,
     optional "style" text,
     optional "explode" .truth,
     optionalAlias "allowReserved" "allow_reserved" .truth,
     optionalAlias "schema" "schema_" (orReference .schema),
     optional "content" (tableOf (.record .mediaType)),
     free "example",
     optional "examples" (tableOf (orReference .exampleObject))]
  | .encoding =>
    [optionalAlias "contentType" "content_type" text,
     optional "headers" (tableOf (orReference .header)),
     optional "style" text,
     optional "explode" .truth,
     optionalAlias "allowReserved" "allow_reserved" .truth]
  | .parameter =>
    [required "name" text,
     requiredAlias "in" "in_" (.word ["query", "header", "path", "cookie"]),
     optional "description" text,
     optional "required" .truth,
     optional "deprecated" .truth,
     optionalAlias "allowEmptyValue" "allow_empty_value" .truth,
     optional "style" text,
     optional "explode" .truth,
     optionalAlias "allowReserved" "allow_reserved" .truth,
     optionalAlias "schema" "schema_" (orReference .schema),
     optional "content" (tableOf (.record .mediaType)),
     free "example",
     optional "examples" (tableOf (orReference .exampleObject))]
  | .requestBody =>
    [optional "description" text,
     required "content" (tableOf (.record .mediaType)),
     optional "required" .truth]
  | .link =>
    [optionalAlias "operationId" "operation_id" text,
     optionalAlias "operationRef" "operation_ref" text,
     optional "parameters" (tableOf .any),
     freeAlias "requestBody" "request_body",
     optional "description" text,
     optional "server" (.record .server)]
  | .response =>
    [required "description" text,
     optional "headers" (tableOf (orReference .header)),
     optional "content" (tableOf (.record .mediaType)),
     optional "links" (tableOf (orReference .link))]
  | .operation =>
    [optional "tags" (.list text),
     optional "summary" text,
     optional "description" text,
     optionalAlias "externalDocs" "external_docs" (.record .externalDocs),
     optionalAlias "operationId" "operation_id" text,
     optional "parameters" (.list (orReference .parameter)),
     optionalAlias "requestBody" "request_body" (orReference .requestBody),
     required "responses" (tableOf (orReference .response)),
     optional "callbacks" (tableOf callbacks),
     optional "deprecated" .truth,
     optional "security" (.list (tableOf (.list text))),
     optional "servers" (.list (.record .server))]
  | .pathItem =>
    [optionalAlias "$ref" "ref" text,
     optional "summary" text,
     optional "description" text,
     optional "get" (.record .operation),
     optional "put" (.record .operation),
     optional "post" (.record .operation),
     optional "delete" (.record .operation),
     optional "options" (.record .operation),
     optional "head" (.record .operation),
     optional "patch" (.record .operation),
     optional "trace" (.record .operation),
     optional "servers" (.list (.record .server)),
     optional "parameters" (.list (orReference .parameter))]
  | .oauthFlow =>
    [optionalAlias "authorizationUrl" "authorization_url" text,
     optionalAlias "tokenUrl" "token_url" text,
     optionalAlias "refreshUrl" "refresh_url" text,
     required "scopes" (tableOf text)]
  | .oauthFlows =>
    [optional "implicit" (.record .oauthFlow),
     optional "password" (.record .oauthFlow),
     optionalAlias "clientCredentials" "client_credentials" (.record .oauthFlow),
     optionalAlias "authorizationCode" "authorization_code" (.record .oauthFlow)]
  | .apiKeyScheme =>
    [required "type" (.word ["apiKey"]),
     optional "description" text,
     required "name" text,
     requiredAlias "in" "in_" (.word ["query", "header", "cookie"])]
  | .httpScheme =>
    [required "type" (.word ["http"]),
     optional "description" text,
     required "scheme" text,
     optionalAlias "bearerFormat" "bearer_format" text]
  | .oauth2Scheme =>
    [required "type" (.word ["oauth2"]),
     optional "description" text,
     required "flows" (.record .oauthFlows)]
  | .openIdScheme =>
    [required "type" (.word ["openIdConnect"]),
     optional "description" text,
     requiredAlias "openIdConnectUrl" "open_id_connect_url" text]
  | .mutualTlsScheme =>
    [required "type" (.word ["mutualTLS"]),
     optional "description" text]
  | .components =>
    [optional "schemas" (tableOf (orReference .schema)),
     optional "responses" (tableOf (orReference .response)),
     optional "parameters" (tableOf (orReference .parameter)),
     optional "examples" (tableOf (orReference .exampleObject)),
     optionalAlias "requestBodies" "request_bodies" (tableOf (orReference .requestBody)),
     optional "headers" (tableOf (orReference .header)),
     optionalAlias "securitySchemes" "security_schemes" (tableOf securityScheme),
     optional "links" (tableOf (orReference .link)),
     optional "callbacks" (tableOf callbacks)]
  | .document =>
    [required "openapi" text,
     required "info" (.record .info),
     optional "servers" (.list (.record .server)),
     required "paths" (.table .pathTemplate (.record .pathItem)),
     optional "components" (.record .components),
     optional "security" (.list (tableOf (.list text))),
     optional "tags" (.list (.record .tag)),
     optionalAlias "externalDocs" "external_docs" (.record .externalDocs)]

/-- The members and the title of an element. -/
def Element.grammar (element : Element) : Record Element :=
  ⟨element.title, element.members, false⟩

/-- Reads a value as an OpenAPI document: the document as read, or every fault. -/
def decode (content : Value) : Except (List Shape.Fault) Value :=
  Shape.check Element.grammar (.record .document) content

end ClientGen.OpenApi

import ClientGen.Code.Group
import ClientGen.Code.Struct
import ClientGen.Extraction.Access
import ClientGen.Text.Blank
import ClientGen.Text.Search

/-!
# Endpoints of generated code

An operation becomes an endpoint: a constructor with name and route, and calls that add its
responses, parameters, payload and annotations.  Parameters of each place are declared as a struct
of their own.

The comment of something is the first line of what is said about it, blanks around the text left
out, or a text to fall back on.  Comments do not hold the mark that ends a comment.
-/

namespace ClientGen.Code

/-! ### Comments -/

/-- The first line of a text without the blanks around it, or the text to fall back on, the marks
that would end a comment taken apart. -/
def comment (text fallback : String) : String :=
  let line := ((Text.lines (Text.trim text)).head?).getD fallback
  Text.replace "*/" "* /" line

/-- The comment of a description, which has to be a text if it says anything at all; octets that are
nothing but blanks say nothing. -/
def commentOf (description : Value) (fallback : String) : Except Unexpected String :=
  if description.isTruthy then
    match description with
    | .str text => .ok (comment text fallback)
    | .octets bytes =>
      if bytes.all fun b => b == 32 || (9 ≤ b && b ≤ 13) then
        .ok (comment "" fallback)
      else .error ⟨.type, "a bytes-like object is required, not 'str'"⟩
    | value => .error (Extraction.Fault.noMethod value "strip").unexpected
  else .ok (comment "" fallback)

/-! ### Endpoints -/

/-- A declaration of a constant with a comment. -/
structure Declaration where
  name : String
  comment : String
  expression : String

/-- An endpoint as code. -/
structure Endpoint where
  comment : String
  constructor : String
  calls : List String

/-- The type of a response. -/
def responseType (response : Response) (fallback : String) : String :=
  match response.schema with
  | some schema => TypeExpr.schemaText .qualified (some schema)
  | none => fallback

/-- The argument that gives a status. -/
def statusArgument (code : Nat) : String :=
  ", \x7b status: " ++ toString code ++ " \x7d"

/-- The first response that means success, with its code. -/
def success? (responses : List Response) : Option (Nat × Response) :=
  responses.findSome? fun response =>
    response.code.bind fun code =>
      if 200 ≤ code ∧ code < 300 then some (code, response) else none

/-- The responses that mean an error, the first one of each code, with their codes. -/
def failures (seen : List Nat) : List Response → List (Nat × Response)
  | [] => []
  | response :: rest =>
    match response.code with
    | none => failures seen rest
    | some code =>
      if code < 400 || seen.contains code then failures seen rest
      else (code, response) :: failures (code :: seen) rest

/-- The call for a response that means success. -/
def successCall (success : Nat × Response) : String :=
  ".addSuccess(" ++ responseType success.2 "S.Void" ++
    (if success.1 = 200 then "" else statusArgument success.1) ++ ")"

/-- The call for a response that means an error. -/
def errorCall (failure : Nat × Response) : String :=
  ".addError(" ++ responseType failure.2 "S.String" ++ statusArgument failure.1 ++ ")"

/-- The places whose parameters are declared, each with the call that sets them and the end of the
name of their struct. -/
def parameterPlaces : List (ParameterPlace × String × String) :=
  [(.path, "setPath", "PathParams"), (.query, "setUrlParams", "UrlParams"),
   (.header, "setHeaders", "Headers")]

/-- The declarations of the parameters of an operation, with their calls. -/
def parameterCalls (operation : Operation) (name : String) : List (Declaration × String) :=
  parameterPlaces.filterMap fun (place, setter, ending) =>
    let parameters := operation.parameters.filter fun parameter => parameter.place == place
    if parameters.isEmpty then none
    else
      let structName := Naming.pascal name ++ ending
      some ({ name := structName
              comment := ending ++ " for " ++ name
              expression := struct (parameters.map parameterField) },
        "." ++ setter ++ "(" ++ structName ++ ")")

/-- The schema of the payload: that of the first media type of JSON, or of the first one at all. -/
def payload (operation : Operation) : Option Schema :=
  let content := (operation.body.map RequestBody.content).getD []
  let json := content.findSome? fun entry =>
    if Text.contains "json" entry.mediaType then entry.schema else none
  json <|> content.findSome? MediaEntry.schema

/-- The call for the payload. -/
def payloadCalls (operation : Operation) : List String :=
  match payload operation with
  | some schema => [".setPayload(" ++ TypeExpr.schemaText .qualified (some schema) ++ ")"]
  | none => []

/-- A field with a text that is given and not empty. -/
def textField (key : String) (text : Option String) : List String :=
  match text with
  | some s => if s.isEmpty then [] else [key ++ ": " ++ Literal.ofText s]
  | none => []

/-- The call for the annotations of an operation. -/
def annotationCalls (operation : Operation) : List String :=
  let fields := textField "summary" operation.summary ++
    textField "description" operation.description ++
    (if operation.deprecated then ["deprecated: true"] else [])
  if fields.isEmpty then []
  else
    [".annotateContext(OpenApi.annotations(\x7b " ++ Text.join ", " fields ++ " \x7d))"]

/-- The constructors of endpoints by method. -/
def constructors : List (String × String) :=
  [("GET", "HttpApiEndpoint.get"), ("POST", "HttpApiEndpoint.post"),
   ("PUT", "HttpApiEndpoint.put"), ("PATCH", "HttpApiEndpoint.patch"),
   ("DELETE", "HttpApiEndpoint.del"), ("HEAD", "HttpApiEndpoint.head"),
   ("OPTIONS", "HttpApiEndpoint.options")]

/-- The constructor of an endpoint with its arguments. -/
def constructor (operation : Operation) (name : String) : String :=
  (Entries.get? operation.method constructors).getD
      ("HttpApiEndpoint.make(" ++ Literal.ofText operation.method ++ ")") ++
    "(" ++ Literal.ofText name ++ ", " ++ Literal.ofText (PathTemplate.route operation.path) ++ ")"

/-- The comment of an endpoint: method, path and summary. -/
def endpointComment (operation : Operation) : String :=
  operation.label ++
    match operation.summary with
    | some summary => if summary.isEmpty then "" else " - " ++ comment summary ""
    | none => ""

/-- The endpoint of an operation with a name, and the declarations that it needs. -/
def endpoint (operation : Operation) (name : String) : Endpoint × List Declaration :=
  let parameters := parameterCalls operation name
  ({ comment := endpointComment operation
     constructor := constructor operation name
     calls := (success? operation.responses).toList.map successCall ++
       (failures [] operation.responses).map errorCall ++ parameters.map (·.2) ++
       payloadCalls operation ++ annotationCalls operation },
   parameters.map (·.1))

/-- The values in the endpoint of an operation and the declarations that it needs. -/
def operationValues (operation : Operation) : List Value :=
  let responses := (success? operation.responses).toList ++ failures [] operation.responses
  let schemas := responses.filterMap (fun (_, response) => response.schema) ++
    (payload operation).toList
  let parameters := operation.parameters.filter fun parameter =>
    parameterPlaces.any fun (place, _) => parameter.place == place
  schemas.flatMap (fun schema => (TypeExpr.ofSchema schema).values) ++
    parameters.flatMap parameterValues

end ClientGen.Code

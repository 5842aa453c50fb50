import ClientGen.Code.Endpoint
import ClientGen.Value.LongInteger

/-!
# Artifacts

The files that are generated for an API: one with its schemas, one for each group, and an index.
-/

namespace ClientGen.Code

/-- A generated file. -/
structure Artifact where
  file : String
  content : String
  deriving Repr, DecidableEq

/-- The name of the file of the schemas. -/
def schemasFile : String := "schemas.ts"

/-- The name of the index. -/
def indexFile : String := "index.ts"

/-- Lines of a file. -/
def fileText (lines : List String) : String :=
  String.join (lines.map (· ++ "\n"))

/-- Refuses values with an integer that is too long to be written. -/
def checkWritable (values : List Value) : Except Unexpected Unit :=
  if values.any Value.hasLongInteger then .error ⟨.value, Numeral.longMessage⟩ else .ok ()

/-! ### Schemas -/

/-- The declaration of a component schema. -/
def schemaDeclaration (entry : String × Schema) : Except Unexpected Declaration := do
  let name := Naming.pascal entry.1
  let comment ← commentOf entry.2.info.description (name ++ " schema")
  checkWritable (componentValues entry.2)
  return ⟨name, comment, component entry.2⟩

/-- The declarations of the component schemas of an API. -/
def schemaDeclarations (api : Api) : Except Unexpected (List Declaration) :=
  api.components.schemas.mapM schemaDeclaration

/-- The lines of a declaration, with words in front of it. -/
def Declaration.lines (lead : String) (d : Declaration) : List String :=
  ["", "// " ++ d.comment, lead ++ d.name ++ " = " ++ d.expression ++ ";"]

/-- The line of the type that belongs to a schema. -/
def typeLine (d : Declaration) : String :=
  "export type " ++ d.name ++ " = S.Schema.Type<typeof " ++ d.name ++ ">;"

/-- The line that makes schemas available. -/
def schemaImport : String := "import \x7b Schema as S \x7d from \"effect\";"

/-- The text of the file of the schemas. -/
def schemasText (declarations : List Declaration) : String :=
  fileText ([schemaImport] ++ declarations.flatMap (Declaration.lines "export const ") ++
    (if declarations.isEmpty then [] else "" :: declarations.map typeLine))

/-! ### Groups -/

/-- The lines of an endpoint. -/
def endpointLines (isLast : Bool) (e : Endpoint) : List String :=
  ["\t.add(", "\t\t// " ++ e.comment, "\t\t" ++ e.constructor] ++ e.calls.map ("\t\t\t" ++ ·) ++
    ["\t)" ++ (if isLast then " \x7b\x7d" else "")]

/-- The lines of endpoints. -/
def endpointsLines : List Endpoint → List String
  | [] => []
  | [last] => endpointLines true last
  | first :: rest => endpointLines false first ++ endpointsLines rest

/-- The line that makes something of the platform available. -/
def platformImport (names : List String) : String :=
  "import \x7b " ++ Text.join ", " names ++ " \x7d from \"@effect/platform\";"

/-- The text of the file of a group. -/
def groupText (group : Group) : String :=
  let parts := (group.operations.zip (endpointNames group.operations)).map fun (operation, name) =>
    endpoint operation name
  let endpoints := parts.map (·.1)
  let declarations := parts.flatMap (·.2)
  let texts := declarations.map Declaration.expression ++ endpoints.flatMap Endpoint.calls
  let annotated := texts.any (Text.contains ".annotateContext(OpenApi.")
  fileText
    ([platformImport (["HttpApiEndpoint", "HttpApiGroup"] ++
        (if annotated then ["OpenApi"] else [])), schemaImport] ++
      (if texts.any (Text.contains "Schemas.") then
        ["import * as Schemas from \"./schemas.js\";"] else []) ++
      declarations.flatMap (Declaration.lines "const ") ++
      ["", "export class " ++ group.className ++ " extends HttpApiGroup.make(" ++
        Literal.ofText group.tag ++ ")"] ++
      endpointsLines endpoints)

/-! ### The index -/

/-- The text of the index. -/
def indexText (api : Api) (groups : List Group) : String :=
  fileText
    ([platformImport ["HttpApi"]] ++
      (groups.map fun group =>
        "import \x7b " ++ group.className ++ " \x7d from \"./" ++ group.moduleName ++ ".js\";") ++
      [""] ++
      (groups.map fun group => "export * from \"./" ++ group.moduleName ++ ".js\";") ++
      ["export * from \"./schemas.js\";", "",
        "export class " ++ api.className groups ++ " extends HttpApi.make(" ++
          Literal.ofText api.info.title ++ ")" ++
          String.join (groups.map fun group => ".add(" ++ group.className ++ ")") ++ " \x7b\x7d"])

/-- The artifacts of an API: schemas first, the index last. -/
def artifacts (api : Api) : Except Unexpected (List Artifact) := do
  let groups := api.groups
  let declarations ← schemaDeclarations api
  checkWritable (groups.flatMap fun group => group.operations.flatMap operationValues)
  return [⟨schemasFile, schemasText declarations⟩] ++
    (groups.map fun group => ⟨group.fileName, groupText group⟩) ++
    [⟨indexFile, indexText api groups⟩]

end ClientGen.Code

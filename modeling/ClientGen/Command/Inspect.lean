import ClientGen.Api.AsValue
import ClientGen.Command.Invocation
import ClientGen.Command.Transcript
import ClientGen.Json.Standard
import ClientGen.Report.Resolution
import ClientGen.Value.LongInteger

/-!
# The command that shows what is in a document

A document goes through the stages without anything being written, and one view of the result is
shown: its API as a whole, its operations, its schemas, its references or the groups of endpoints.
-/

namespace ClientGen.Command

variable {m : Type → Type} [Monad m]

/-- A text, or a dash for one that is missing or empty. -/
def orDash (text : Option String) : String :=
  match text with
  | some s => if s.isEmpty then "-" else s
  | none => "-"

/-- The row of an operation. -/
def operationRow (operation : Operation) : List String :=
  [operation.method, operation.path, orDash operation.operationId,
   orDash (some (Text.join ", " operation.tags)), orDash operation.summary,
   if operation.deprecated then "Yes" else ""]

/-- The table of the operations of an API. -/
def operationsTable (api : Api) : Message :=
  .table ["Method", "Path", "Operation ID", "Tags", "Summary", "Deprecated"]
    (api.operations.map operationRow)

/-- How many properties of a schema are named. -/
def maxProperties : Nat := 5

/-- The names of the properties of a schema. -/
def propertyNames : Schema → List String
  | .object _ properties _ _ => properties.map (·.1)
  | _ => []

/-- The row of a component schema. -/
def schemaRow (entry : String × Schema) : List String :=
  let names := propertyNames entry.2
  let text := Text.join ", " (names.take maxProperties) ++
    (if maxProperties < names.length then "..." else "")
  [entry.1, entry.2.kindName, orDash (some text)]

/-- The table of the component schemas of an API. -/
def schemasTable (api : Api) : Message :=
  if api.components.schemas.isEmpty then .info "No component schemas defined in this document."
  else .table ["Schema", "Kind", "Properties"] (api.components.schemas.map schemaRow)

/-- The rows of the endpoints of a group. -/
def groupRows (group : Group) : List (List String) :=
  (group.operations.zip (endpointNames group.operations)).map fun (operation, name) =>
    [group.className, group.fileName, name, operation.method, operation.path]

/-- The table of the endpoints of an API. -/
def groupsTable (api : Api) : Message :=
  .table ["Group", "File", "Endpoint", "Method", "Path"] (api.groups.flatMap groupRows)

/-- The whole API as JSON, which has to be able to say it.  What it quotes has finite numbers
only. -/
def apiMessage (api : Api) : Except Unexpected Message := do
  let value ← (Json.standard (api.toValue Json.finite)).mapError fun fault =>
    ⟨.encoding, fault.message⟩
  if value.hasLongInteger then .error ⟨.value, Numeral.longMessage⟩ else .ok (.json value)

/-- What a view shows; with JSON as format, the summary is the whole API. -/
def viewMessage (view : View) (format : OutputFormat) (product : Product) :
    Except Unexpected Message :=
  match view with
  | .summary =>
    if format = .json then apiMessage product.api else .ok (.data (Report.extraction product.api))
  | .paths => .ok (operationsTable product.api)
  | .schemas => .ok (schemasTable product.api)
  | .refs => .ok (.data (Report.resolution product.resolution))
  | .groups => .ok (groupsTable product.api)

/-- What is said of a document in a view. -/
def viewTranscript (view : View) (format : OutputFormat) (run : Run Product) : Transcript :=
  match run.outcome.map (viewMessage view format) with
  | .ok (.error fault) =>
    { Transcript.unexpected fault with requests := run.requests }.after
      (run.logs.map .record)
  | .ok (.ok message) => run.transcript (fun _ => []) fun _ => [message]
  | .error _ => run.transcript (fun _ => []) fun _ => []

/-- Shows a view of a document. -/
def inspectDocument (place : Workplace m) (console : Console) (view : View) (file : String)
    (resolveExternal : Bool) : m Transcript :=
  place.withConfiguration console
    [("input_path", .str file),
     ("resolve_external", if resolveExternal then .bool true else .null)]
    fun config => do
      return viewTranscript view console.format (← place.run (config.runOptions false) file)

end ClientGen.Command

import ClientGen.Extraction
import ClientGen.OpenApi.Grammar
import ClientGen.Proofs.Shape

/-!
# Where the grammar and extraction disagree

The grammar and extraction describe the same documents twice.  A `Conflict` is a place where the
two descriptions differ: what the grammar accepts there need not be what extraction can read.
`conflicts` lists those of a document.  It goes where extraction goes, so that values which
extraction does not look at have none.
-/

namespace ClientGen.Extraction

open OpenApi (Element)
open Shape (itemsIn entriesIn valueAt?)

/-- A place on which the grammar and extraction disagree. -/
inductive Conflict where
  /-- The title or the version is an empty text. -/
  | emptyText (name : String)
  /-- There is null where a path has an operation. -/
  | noOperation (method path : String)
  /-- The place of a parameter stands under its second name only. -/
  | noPlace
  /-- The key of a response has digits that are no number. -/
  | status (key : String)
  /-- An object that is read as an element is none by the grammar, which sees a reference there or
  does not look there. -/
  | notElement (element : Element)
  /-- A member of `allOf` whose properties are merged has null for them. -/
  | noProperties
  deriving Repr, DecidableEq

/-- Whether extraction fails at a conflict, whatever the value; at the other ones it fails for some
values. -/
def Conflict.stops : Conflict → Bool
  | notElement _ | noProperties => false
  | _ => true

/-! ### Conflicts of schemas -/

/-- Whether a value is an element by the grammar. -/
def isElement (element : Element) (value : Value) : Bool :=
  (Shape.check Element.grammar (.record element) value).toOption.isSome

/-- The conflicts of a value at the place of an element, given those inside of one. -/
def conflictsAt (element : Element) (inside : Value → List Conflict) (value : Value) :
    List Conflict :=
  if isEntry value then
    if isElement element value then inside value else [.notElement element]
  else []

/-- The properties of a schema. -/
def propertiesOf (schema : Value) : List Value :=
  (entriesIn (fieldOrNull "properties" schema)).map (·.2)

/-- The members of `allOf` whose properties are merged. -/
def mergedMembers (schema : Value) : List Value :=
  match allOfMembers schema with
  | [] => []
  | [_] => []
  | members => if members.all isInline then members else []

/-- The values in a schema that are read as schemas. -/
def subschemas (schema : Value) : List Value :=
  allOfMembers schema ++ (mergedMembers schema).flatMap propertiesOf ++ propertiesOf schema ++
    [fieldOrNull "items" schema, fieldOrNull "additionalProperties" schema]

/-- Whether a member that can be merged has null for its properties. -/
def lacksProperties (member : Value) : Bool :=
  isMergeable member && !(fieldOrNull "properties" member).isObject

/-- The conflicts of a value nested less than `depth` deep at the place of a schema. -/
def schemaConflictsWithin : Nat → Value → List Conflict
  | 0, value => conflictsAt .schema (fun _ => []) value
  | depth + 1, value =>
    conflictsAt .schema (fun schema =>
      (if (mergedMembers schema).any lacksProperties then [.noProperties] else []) ++
        (subschemas schema).flatMap (schemaConflictsWithin depth)) value

/-- The conflicts of a value at the place of a schema. -/
def schemaConflicts (value : Value) : List Conflict :=
  schemaConflictsWithin (value.height + 1) value

/-! ### Conflicts of parameters, bodies and responses -/

/-- The conflicts of a parameter. -/
def parameterConflicts : Value → List Conflict :=
  conflictsAt .parameter fun parameter =>
    (if (valueAt? "in" parameter).isSome then [] else [.noPlace]) ++
      match parameterSchema parameter with
      | .ok schema => schemaConflicts schema
      | .error _ => []

/-- The conflicts of the media types of a body. -/
def contentConflicts (content : Value) : List Conflict :=
  (entriesIn content).flatMap fun entry => schemaConflicts (fieldOrNull "schema" entry.2)

/-- The conflicts of a body. -/
def bodyConflicts : Value → List Conflict :=
  conflictsAt .requestBody fun body => contentConflicts (fieldOrNull "content" body)

/-- The conflicts of a header. -/
def headerConflicts : Value → List Conflict :=
  conflictsAt .header fun header => schemaConflicts (fieldOrNull "schema" header)

/-- The conflicts of a schema at which the grammar does not look. -/
def ownSchemaConflicts (schema : Value) : List Conflict :=
  if isReference schema && !isElement .reference schema && !isElement .schema schema then
    [.notElement .schema]
  else schemaConflicts schema

/-- The conflicts of the key of a response. -/
def statusConflicts (key : String) : List Conflict :=
  match statusCode key with
  | .ok _ => []
  | .error _ => [.status key]

/-- The conflicts of a response under a key. -/
def responseConflicts (key : String) : Value → List Conflict :=
  conflictsAt .response fun response =>
    statusConflicts key ++ contentConflicts (fieldOrNull "content" response) ++
      ownSchemaConflicts (fieldOrNull "schema" response) ++
      (entriesIn (fieldOrNull "headers" response)).flatMap fun entry => headerConflicts entry.2

/-! ### Conflicts of operations, paths and documents -/

/-- The conflicts of an operation. -/
def operationConflicts (operation : Value) : List Conflict :=
  (itemsIn (fieldOrNull "parameters" operation)).flatMap parameterConflicts ++
    bodyConflicts (fieldOrNull "requestBody" operation) ++
    (entriesIn (fieldOrNull "responses" operation)).flatMap fun entry =>
      responseConflicts entry.1.plain entry.2

/-- The conflicts of the field of a path that holds an operation. -/
def methodConflicts (method path : String) : Value → List Conflict
  | .object fields => operationConflicts (.object fields)
  | _ => [.noOperation method path]

/-- The conflicts of a path. -/
def pathConflicts (path : String) (item : Value) : List Conflict :=
  ((methods.filter fun method => hasField method item).flatMap fun method =>
      methodConflicts method path (fieldOrNull method item)) ++
    (itemsIn (fieldOrNull "parameters" item)).flatMap parameterConflicts

/-- The conflicts of the components of a document. -/
def componentConflicts (components : Value) : List Conflict :=
  let table (name : String) := entriesIn (fieldOrNull name components)
  ((table "schemas").flatMap fun entry => schemaConflicts entry.2) ++
    ((table "responses").flatMap fun entry => responseConflicts entry.1.plain entry.2) ++
    ((table "parameters").flatMap fun entry => parameterConflicts entry.2) ++
    (table "requestBodies").flatMap fun entry => bodyConflicts entry.2

/-- The conflicts of the title and the version. -/
def infoConflicts (info : Value) : List Conflict :=
  (["title", "version"].filter fun name => !(fieldOrNull name info).isTruthy).map .emptyText

/-- The conflicts of a document. -/
def conflicts (document : Value) : List Conflict :=
  infoConflicts (fieldOrNull "info" document) ++
    (((entriesIn (fieldOrNull "paths" document)).filter fun path =>
        !isExtension path.1.plain).flatMap fun path => pathConflicts path.1.plain path.2) ++
    componentConflicts (fieldOrNull "components" document)

end ClientGen.Extraction

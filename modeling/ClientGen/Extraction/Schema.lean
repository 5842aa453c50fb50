import ClientGen.Api.Schema
import ClientGen.Extraction.Part
import ClientGen.Reference
import ClientGen.Text.Search

/-!
# Extraction of schemas

An object of a document is read as a schema: a reference, an enumeration, an array, an object or a
scalar.  One schema under `allOf` stands for the whole, and several objects under `allOf` are merged
into one; any other combination leaves the type open.  Values that are no objects are no schemas.
-/

namespace ClientGen.Extraction

/-- The name that a reference ends with. -/
def referenceName (ref : String) : String :=
  Text.replace "~0" "~" (Text.replace "~1" "/" (Text.afterLast '/' ref))

/-- Whether a value is the word for the type of null. -/
def isNullWord : Value → Bool
  | .str "null" => true
  | _ => false

/-- Whether a schema says that null is among its values. -/
def declaresNull (schema : Value) : Bool :=
  (fieldOrNull "nullable" schema).isTruthy ||
    match fieldOrNull "type" schema with
    | .list types => types.any isNullWord
    | _ => false

/-- The type of a schema: the first one other than null where several are listed. -/
def schemaType (schema : Value) : Option String :=
  match fieldOrNull "type" schema with
  | .null => none
  | .list types => (types.find? fun type => !isNullWord type).map Value.plain
  | type => some type.plain

/-- The fields of a schema that are checked, whatever its type. -/
def commonFields (schema : Value) : List (String × Value) :=
  [("description", fieldOrNull "description" schema), ("minimum", fieldOrNull "minimum" schema),
   ("maximum", fieldOrNull "maximum" schema), ("min_length", fieldOrNull "minLength" schema),
   ("max_length", fieldOrNull "maxLength" schema), ("pattern", fieldOrNull "pattern" schema)]

/-- What a schema says besides its type, given its checked fields. -/
def infoOf (schema part : Value) : SchemaInfo :=
  { description := fieldOrNull "description" part
    sample := fieldOrNull "example" schema
    default := fieldOrNull "default" schema
    minimum := numberOf? "minimum" part
    maximum := numberOf? "maximum" part
    minLength := integerOf? "min_length" part
    maxLength := integerOf? "max_length" part
    pattern := textOf? "pattern" part
    nullable := declaresNull schema
    deprecated := (fieldOrNull "deprecated" schema).isTruthy }

/-- A text as a value; null stands for none. -/
def ofText : Option String → Value
  | some s => .str s
  | none => .null

/-- Reads a reference. -/
def readReference (ref : String) (schema : Value) : Except Fault Schema := do
  let part ← Part.reference.read [("description", fieldOrNull "description" schema)]
  return .reference { description := fieldOrNull "description" part } ref (referenceName ref)

/-- Reads an enumeration. -/
def readEnumeration (values : List Value) (schema : Value) : Except Fault Schema := do
  let type := schemaType schema
  let part ← Part.enumeration.read (commonFields schema ++ [("type", ofText type)])
  return .enumeration (infoOf schema part) values type

/-- Reads a scalar. -/
def readPrimitive (schema : Value) : Except Fault Schema := do
  let type := schemaType schema
  let part ← Part.primitive.read
    (commonFields schema ++ [("type", ofText type), ("format", fieldOrNull "format" schema)])
  return .primitive (infoOf schema part) type (textOf? "format" part)

/-- Reads an array. -/
def readArray (extract : Value → Except Fault (Option Schema)) (schema : Value) :
    Except Fault Schema := do
  let item ← extract (fieldOrNull "items" schema)
  let part ← Part.array.read (commonFields schema)
  return .array (infoOf schema part) item

/-- Reads properties; those that are no schemas are left out. -/
def readProperties (extract : Value → Except Fault (Option Schema)) :
    List (Value × Value) → Except Fault (List (Value × Schema))
  | [] => .ok []
  | (name, value) :: rest => do
    let schema? ← extract value
    let more ← readProperties extract rest
    return match schema? with
      | some schema => (name, schema) :: more
      | none => more

/-- Reads what a schema says about properties that it does not name. -/
def readAdditional (extract : Value → Except Fault (Option Schema)) :
    Value → Except Fault (Additional Schema)
  | .bool b => .ok (.allowed b)
  | value => do
    return match ← extract value with
      | some schema => .schema schema
      | none => .unsaid

/-- Names as the keys of an object that holds nothing else. -/
def keysOnly (names : List Value) : Value :=
  if names.all fun name => name.str?.isSome then
    .object (names.filterMap fun name => name.str?.map fun s => (s, .null))
  else .mapping (names.map fun name => (name, .null))

/-- Reads an object schema with the given properties and names of required ones. -/
def readObject (extract : Value → Except Fault (Option Schema)) (schema : Value)
    (properties : Except Fault (List (Value × Value))) (required : Except Fault (List Value)) :
    Except Fault Schema := do
  let properties ← readProperties extract (← properties)
  let additional ← readAdditional extract (fieldOrNull "additionalProperties" schema)
  let part ← Part.object.read (commonFields schema ++
    [("properties", keysOnly (properties.map (·.1))), ("required", .list (← required))])
  return .object (infoOf schema part)
    (properties.filterMap fun property => property.1.str?.map fun name => (name, property.2))
    (textsOf "required" part) additional

/-- Whether a member of `allOf` is an object whose properties can be merged with others. -/
def isMergeable (member : Value) : Bool :=
  (match schemaType member with
   | none | some "object" => true
   | _ => false) && hasField "properties" member

/-- Merges the properties and the required names of members, which may end at one that cannot be
merged. -/
def mergeMembers (properties : List (Value × Value)) (required : List Value) :
    List Value → Except Fault (Option (List (Value × Value) × List Value))
  | [] => .ok (some (properties, required))
  | member :: rest =>
    if isMergeable member then do
      let properties ← addEntries properties (fieldOrNull "properties" member)
      let more ← itemsOrNone (fieldOrNull "required" member)
      mergeMembers properties (required ++ more) rest
    else .ok none

/-- The fields of a schema that hold for its merged members. -/
def mergedFields (schema : Value) : Value :=
  .object (["description", "example", "nullable", "deprecated"].filterMap fun name =>
    (schema.field? name).map fun value => (name, value))

/-- Whether a value is an object and no reference. -/
def isInline (value : Value) : Bool :=
  value.isObject && (Reference.of? value).isNone

/-- Reads a schema as its only member, to which its description is lent. -/
def readOnlyMember (extract : Value → Except Fault (Option Schema)) (schema member : Value) :
    Except Fault (Option Schema) := do
  let some inner ← extract member | return none
  let description := fieldOrNull "description" schema
  return some <|
    if description.isTruthy && !inner.info.description.isTruthy then
      inner.withInfo { inner.info with description }
    else inner

/-- Reads a schema by its members, if they can stand for it. -/
def readAllOf (extract : Value → Except Fault (Option Schema)) (schema : Value) :
    List Value → Except Fault (Option Schema)
  | [] => .ok none
  | [member] => readOnlyMember extract schema member
  | members =>
    -- A reference among the members cannot be merged.
    if members.all isInline then do
      match ← mergeMembers [] [] members with
      | some (properties, required) =>
        some <$> readObject extract (mergedFields schema) (.ok properties) (.ok required)
      | none => return none
    else .ok none

/-- The members of `allOf`. -/
def allOfMembers (schema : Value) : List Value :=
  match fieldOrNull "allOf" schema with
  | .list members => members
  | _ => []

/-- Reads a schema by its own type. -/
def readByType (extract : Value → Except Fault (Option Schema)) (schema : Value) :
    Except Fault Schema :=
  let type := schemaType schema
  match fieldOrNull "enum" schema with
  | .list values => readEnumeration values schema
  | _ =>
    if type = some "array" || (type.isNone && hasField "items" schema) then readArray extract schema
    else if type = some "object" || (type.isNone && hasField "properties" schema) then
      readObject extract schema (entriesOrNone "items" (fieldOrNull "properties" schema))
        (itemsOrNone (fieldOrNull "required" schema))
    else readPrimitive schema

/-- Reads an object of a document as a schema. -/
def readSchema (extract : Value → Except Fault (Option Schema)) (schema : Value) :
    Except Fault (Option Schema) :=
  match Reference.of? schema with
  | some ref => some <$> readReference ref schema
  | none => do
    match ← readAllOf extract schema (allOfMembers schema) with
    | some merged => return some merged
    | none => some <$> readByType extract schema

/-- Reads a value nested less than `depth` deep as a schema. -/
def schemaWithin : Nat → Value → Except Fault (Option Schema)
  | 0, _ => .ok none
  | depth + 1, value =>
    if value.isObject then readSchema (schemaWithin depth) value else .ok none

/-- Reads a value as a schema; nothing when it is no object. -/
def schema (value : Value) : Except Fault (Option Schema) :=
  schemaWithin (value.height + 1) value

end ClientGen.Extraction
